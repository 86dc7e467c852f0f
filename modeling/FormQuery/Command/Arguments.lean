import FormQuery.Conversion

/-! Arguments of the command line: options of the whole program, then a command with a query, options of its own, or
both. Long options may be shortened while only one fits, and take their value as the next argument or after an equals
sign. -/

namespace FormQuery.Command

structure OptionSpec where
  name : String
  isFlag : Bool := false
  deriving DecidableEq

structure Level where
  options : List OptionSpec
  takesQuery : Bool := false

inductive Refusal where
  | helpWanted
  | misused
  deriving DecidableEq

inductive Argument where
  | word (text : String)
  /-- Two dashes: everything after them is a word. -/
  | divider
  | option (spec : OptionSpec) (value? : Option String)
  /-- A wish for help, which takes no value. -/
  | help (hasValue : Bool)
  | unknown
  deriving DecidableEq

def helpName : String := "--help"

def splitValue (text : List Char) : List Char × Option (List Char) :=
  match text.dropWhile (· ≠ '=') with
  | [] => (text, none)
  | _ :: value => (text.takeWhile (· ≠ '='), some value)

def dropDigits (text : List Char) : List Char := text.dropWhile Text.isDigit

def atEnd (text : List Char) : Bool := text = [] || text = ['\n']

def showsNegative (text : List Char) : Bool :=
  let rest := dropDigits text
  (rest.length < text.length && atEnd rest) || match rest with
    | '.' :: fraction => (dropDigits fraction).length < fraction.length && atEnd (dropDigits fraction)
    | _ => false

def Level.find? (level : Level) (name : String) : Option OptionSpec := level.options.find? (·.name = name)

def Level.names (level : Level) : List String := helpName :: level.options.map (·.name)

def Level.named (level : Level) (name : String) (value? : Option String) : Argument :=
  match level.find? name with
  | some spec => .option spec value?
  | none => .help value?.isSome

def longRole (level : Level) (typed : List Char) : Except Refusal Argument :=
  let (shortened, value?) := splitValue typed
  let value? := value?.map String.ofList
  let exact := String.ofList shortened
  if exact ∈ level.names then .ok (level.named exact value?)
  else
    match level.names.filter fun name => shortened.isPrefixOf name.toList with
    | [name] => .ok (level.named name value?)
    | [] => .ok (if typed.contains ' ' then .word (String.ofList typed) else .unknown)
    | _ => .error .misused

/-- Whether what follows the short option for help spoils it: a value, or another dash. -/
def spoilsHelp (letters : List Char) : Bool :=
  match letters.dropWhile (· = 'h') with
  | c :: _ => c = '=' || c = '-'
  | [] => false

def role (level : Level) (typed : List Char) : Except Refusal Argument :=
  match typed with
  | '-' :: '-' :: _ :: _ => longRole level typed
  | '-' :: 'h' :: letters => .ok (.help (spoilsHelp letters))
  | '-' :: c :: rest =>
    .ok (if showsNegative (c :: rest) || typed.contains ' ' then .word (String.ofList typed) else .unknown)
  | _ => .ok (.word (String.ofList typed))

/-- The roles of arguments. After two dashes everything is a word. -/
def roles (level : Level) : List String → Except Refusal (List Argument)
  | [] => .ok []
  | typed :: rest =>
    if typed = "--" then .ok (.divider :: rest.map .word)
    else do return (← role level typed.toList) :: (← roles level rest)

structure Found where
  values : List (String × String) := []
  flags : List String := []
  query : Option String := none
  hasExtras : Bool := false

/-- Goes through the arguments of a level. With `isOuter` it stops before the first word, which names a command. -/
def collect (isOuter takesQuery : Bool) (found : Found) : List Argument → Except Refusal (Found × List Argument)
  | [] => .ok (found, [])
  | .help hasValue :: _ => .error (if hasValue then .misused else .helpWanted)
  | .unknown :: rest => collect isOuter takesQuery { found with hasExtras := true } rest
  | .option spec (some value) :: rest =>
    if spec.isFlag then .error .misused
    else collect isOuter takesQuery { found with values := Fields.set found.values spec.name value } rest
  | .option spec none :: rest =>
    if spec.isFlag then collect isOuter takesQuery { found with flags := spec.name :: found.flags } rest
    else match rest with
      | .word value :: rest =>
        collect isOuter takesQuery { found with values := Fields.set found.values spec.name value } rest
      | _ => .error .misused
  | .divider :: rest =>
    if isOuter then .ok (found, .divider :: rest)
    else if takesQuery && found.query.isNone && !rest.isEmpty then collect isOuter takesQuery found rest
    else collect isOuter takesQuery { found with hasExtras := true } rest
  | .word value :: rest =>
    if isOuter then .ok (found, .word value :: rest)
    else if takesQuery && found.query.isNone then
      let found := { found with query := some value }
      if rest = [.divider] then .ok (found, []) else collect isOuter takesQuery found rest
    else collect isOuter takesQuery { found with hasExtras := true } rest

structure Globals where
  config : Option String := none
  logLevel : Option String := none
  traceQueries : Bool := false
  deriving DecidableEq

inductive Order where
  | tokens (query : String)
  | compile (query schema : String)
  | run (query database : String) (schema : Option String)
  | schema (schema database : Option String)
  deriving DecidableEq

def outerLevel : Level := { options := [⟨"--config", false⟩, ⟨"--log-level", false⟩, ⟨"--trace-queries", true⟩] }

def levelOf? (command : String) : Option Level :=
  match command with
  | "tokens" => some { options := [], takesQuery := true }
  | "compile" => some { options := [⟨"--schema", false⟩], takesQuery := true }
  | "run" =>
    some { options := [⟨"--sqlite", false⟩, ⟨"--schema", false⟩], takesQuery := true }
  | "schema" => some { options := [⟨"--schema", false⟩, ⟨"--sqlite", false⟩] }
  | _ => none

def pathOf (found : Found) (name : String) : Option String :=
  (Fields.get? found.values name).map Conversion.normalPath

def orderOf? (command : String) (found : Found) : Option Order :=
  let schema := pathOf found "--schema"
  let database := pathOf found "--sqlite"
  match command, found.query, schema, database with
  | "tokens", some query, _, _ => some (.tokens query)
  | "compile", some query, some schema, _ => some (.compile query schema)
  | "run", some query, schema, some database => some (.run query database schema)
  | "schema", _, schema, database => some (.schema schema database)
  | _, _, _, _ => none

def readOrder (command : String) (arguments : List String) : Except Refusal (Order × Bool) :=
  match levelOf? command with
  | none => .error .misused
  | some level => do
    let (found, _) ← collect false level.takesQuery {} (← roles level arguments)
    match orderOf? command found with
    | some order => return (order, found.hasExtras)
    | none => throw .misused

/-- Reads a command line. What is left over is refused only after the command has been read. -/
def read (arguments : List String) : Except Refusal (Globals × Order) := do
  let (found, rest) ← collect true false {} (← roles outerLevel arguments)
  match arguments.drop (arguments.length - rest.length) with
  | [] => throw .misused
  | command :: own =>
    let (order, hasExtras) ← readOrder command own
    if hasExtras || found.hasExtras then throw .misused
    let globals : Globals :=
      ⟨pathOf found "--config", Fields.get? found.values "--log-level", "--trace-queries" ∈ found.flags⟩
    return (globals, order)

end FormQuery.Command
