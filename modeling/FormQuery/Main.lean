import Std.Time.Format
import Std.Time.Zoned
import FormQuery.Command.Run
import FormQuery.Storage.Database

/-! The program. It finds what its arguments name, runs the command, shows what the command showed, and leaves behind
what the command changed. Every decision is the command's own. -/

open FormQuery

def environmentVariables : IO (List (String × String)) := do
  let octets ← try IO.FS.readBinFile "/proc/self/environ" catch _ => pure ByteArray.empty
  let entries := ((String.fromUTF8? octets).getD "").splitOn "\x00"
  return entries.filterMap fun entry => match entry.splitOn "=" with
    | name :: value :: rest => some (name, "=".intercalate (value :: rest))
    | _ => none

/-- What is found at a path. A directory shows as a file below it, and octets that are no text as a foreign character. -/
def filesAt (path : String) : IO Files := do
  try return [(path, (String.fromUTF8? (← IO.FS.readBinFile path)).getD "\ufffd\ufffd")]
  catch
    | .noFileOrDirectory .. => return []
    | _ => return [(path ++ "/-", "")]

def hostOf (arguments : List String) : IO Command.Host := do
  let environment ← environmentVariables
  let files := (← (Command.filePaths environment arguments).eraseDups.mapM filesAt).flatten
  let host : Command.Host := ⟨files, environment, []⟩
  match Command.databasePath? arguments with
  | none => return host
  | some path =>
    let found ← filesAt path
    match found with
    | [(_, content)] =>
      match Tables.ofDocument? content with
      | some tables => return { host with databases := [(path, tables)] }
      | none => return { host with files := found ++ files }
    | _ => return host

def presentMoment : IO Moment := do
  let now ← Std.Time.PlainDateTime.now
  return ⟨now.format "uuuu-MM-dd HH:mm:ss", now.format "uuuu-MM-dd HH:mm:ss,SSS", now.format "uuuuMMdd'_'HHmmss"⟩

def keepDatabase (path : String) (tables : Tables) : IO Unit := do
  match tables.document with
  | .ok document => IO.FS.writeFile path document
  | .error fault => IO.eprintln fault.message

def keepLog (directory : String) (path text : String) : IO Unit := do
  IO.FS.createDirAll directory
  let handle ← IO.FS.Handle.mk path .append
  handle.putStr text

def exitCode : Command.Ending → IO UInt32
  | .finished code | .refused code => return code.toUInt32
  | .stopped message => do
    IO.eprintln message
    return 1
  | .failed fault => do
    IO.eprintln fault.message
    return 1

def main (arguments : List String) : IO UInt32 := do
  let moment ← presentMoment
  let done := Command.run (← hostOf arguments) arguments
  IO.print done.output
  IO.eprint (done.errors moment)
  done.host.databases.forM fun (path, tables) => keepDatabase path tables
  match done.logFile? moment with
  | some (path, text) => keepLog (Command.directoryOf path) path text
  | none => pure ()
  exitCode done.ending
