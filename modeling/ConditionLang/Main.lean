import ConditionLang.Command.Run
import ConditionLang.Log.Layout
import ConditionLang.Log.Timestamp
import Std.Time.DateTime.Timestamp

/-!
# The command `mockcond`

Reads the files that the command line names, carries the command out, and writes what it printed and logged. What is
printed and logged is decided by `Invocation.run`.
-/

namespace ConditionLang

namespace Main

/-- How the command is called. -/
def usage : String :=
  "Usage: mockcond [-c FILE] check FILES...\n" ++
  "       mockcond [-c FILE] eval (-f FILE | -e EXPR...) [--call-count N] [--method METHOD] [--path PATH]\n" ++
  "                [--header NAME:VALUE]... [--query KEY=VALUE]... [--body TEXT] [--seed N]\n"

/-- Why a file could not be read. -/
def fileError : IO.Error → FileError
  | .noFileOrDirectory _ _ _ => .notFound
  | .inappropriateType _ code _ => if code = 21 then .isDirectory else .notDirectory
  | e => .other (toString e)

/-- The contents of files, each under its path. -/
def readFiles (paths : List String) : IO (List (String × Except FileError String)) :=
  paths.mapM fun (path : String) => do
    match ← (IO.FS.readFile path).toBaseIO with
    | .ok text => return (path, .ok text)
    | .error e => return (path, .error (fileError e))

/-- A seed that differs from run to run. -/
def freshSeed : IO Nat := do
  return (← IO.getRandomBytes 8).foldl (fun n byte => 256 * n + byte.toNat) 0

/-- The present time as a timestamp. -/
def now : IO String := do
  let t ← Std.Time.Timestamp.now
  return Log.timestamp (t.toNanosecondsSinceUnixEpoch.val.toNat / 1000)

/-- The line that shows an event. -/
def eventLine (layout : Log.Layout) (colour : Bool) (time : String) (e : Log.Event) : String :=
  match layout with
  | .plain => if colour then e.coloured else e.plain
  | .json => e.json time

/-- Writes events to a file after what it holds. -/
def writeLog (path : String) (layout : Log.Layout) (time : String) (events : List Log.Event) : IO Unit := do
  let directory := LogFile.directory path
  unless directory.isEmpty do IO.FS.createDirAll directory
  let handle ← IO.FS.Handle.mk path .append
  for e in events do
    match layout with
    | .plain => handle.putStrLn (time ++ " " ++ e.plain)
    | .json => handle.putStrLn (e.json time)

end Main

end ConditionLang

open ConditionLang in
/-- Carries out the command that the arguments write. -/
def main (args : List String) : IO UInt32 := do
  match Invocation.read args with
  | .error .help =>
    IO.print Main.usage
    return 0
  | .error .usage =>
    IO.eprint Main.usage
    return 2
  | .ok invocation =>
    let filter ← IO.getEnv "RUST_LOG"
    let seed ← Main.freshSeed
    let surroundings := fun (files : List (String × Except FileError String)) =>
      (⟨fun path => (files.lookup path).getD (.error .notFound), filter, seed⟩ : Surroundings)
    let files ← Main.readFiles invocation.files
    let directory ← Main.readFiles (invocation.logDirectory? (surroundings files)).toList
    let answer := invocation.run (surroundings (files ++ directory))
    let colour := ((← IO.getEnv "NO_COLOR").getD "").isEmpty
    let time ← Main.now
    if let some path := answer.logFile then Main.writeLog path answer.layout time answer.done.events
    IO.print answer.output
    for line in answer.complaints do IO.eprintln line
    for e in answer.done.events do IO.eprintln (Main.eventLine answer.layout colour time e)
    if let some text := answer.errorText? then IO.eprintln text
    return answer.exitCode.toUInt32
