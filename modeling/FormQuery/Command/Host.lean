import FormQuery.Log.Setup
import FormQuery.Storage.Access
import FormQuery.Storage.Database

/-! What a command works with, and what it leaves behind. -/

namespace FormQuery.Command

structure Host where
  files : Files := []
  environment : List (String × String) := []
  databases : List (String × Tables) := []

/-- An open database, or why its statements fail. -/
abbrev OpenDatabase := Except Fault Database

def directoryOf (path : String) : String :=
  let parts := path.toList.reverse.dropWhile (· ≠ '/')
  if parts.isEmpty then "." else String.ofList parts.tail.reverse

def Host.hasDirectory (host : Host) (path : String) : Bool :=
  match host.files.entry path with
  | .directory => true
  | _ => false

/-- Opens a database. One that is missing is made where there is a directory for it. A file that holds something else
opens as well, and only its statements fail. -/
def Host.connect (host : Host) (path : String) : Except Fault OpenDatabase :=
  match host.databases.find? (·.1 = path), host.files.entry path with
  | some (_, tables), _ => .ok (.ok (.ofTables tables))
  | none, .file content => .ok (if content.length ≤ 1 then .ok (.ofTables []) else .error .notDatabase)
  | none, .directory => .error .noDatabase
  | none, .missing =>
    if host.hasDirectory (directoryOf path) then .ok (.ok (.ofTables [])) else .error .noDatabase

def databaseHandler : Handler connection OpenDatabase
  | .execute statement, database =>
    match database with
    | .error fault => { result := .error fault, state := database }
    | .ok opened =>
      let handled := Database.handler (.execute statement) opened
      ⟨handled.result, .ok handled.state, handled.logs⟩
  | .commit, database => { result := .ok (), state := database.map fun opened => .ofTables opened.current }

/-- The host with a database as it was at its last commit. -/
def Host.keep (host : Host) (path : String) (database : OpenDatabase) : Host :=
  match database with
  | .ok opened => { host with databases := Fields.set host.databases path opened.committed }
  | .error _ => host

inductive Shown where
  | output (line : String)
  | complaint (line : String)
  | logged (record : LogRecord)

inductive Ending where
  /-- With the result of the program: zero, or one when the query failed. -/
  | finished (code : Nat)
  /-- Before its work, because of how it was called. -/
  | refused (code : Nat)
  | stopped (message : String)
  | failed (fault : Fault)

structure Done where
  ending : Ending
  shown : List Shown := []
  setup : LogSetup := {}
  host : Host

namespace Done

def lineText (line : String) : String := line ++ "\n"

def output (done : Done) : String :=
  String.join (done.shown.map fun
    | .output line => lineText line
    | _ => "")

def errors (done : Done) (moment : Moment) : String :=
  String.join (done.shown.map fun
    | .output _ => ""
    | .complaint line => lineText line
    | .logged record => if done.setup.writesErrors then done.setup.written moment record else "")

def logFile? (done : Done) (moment : Moment) : Option (String × String) :=
  (done.setup.path? moment).map fun path =>
    (path, done.setup.fileText moment (done.shown.filterMap fun
      | .logged record => some record
      | _ => none))

end Done

end FormQuery.Command
