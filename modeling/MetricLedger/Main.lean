import MetricLedger.CommandLine.Program
import MetricLedger.Json.Reader
import MetricLedger.Storage.Snapshot

/-!
# The program

Runs one command. A database in a file is kept there as a snapshot.
-/

namespace MetricLedger.Program

open CommandLine (Exit)
open Storage (Database)

def usage : String :=
  "usage: oracle-ledger [--database-url URL] [--capacity N] [--log-level LEVEL] " ++
    "[--log-format FORMAT] COMMAND ..."

def environment : IO Environment := do
  return ⟨← IO.getEnv "DATABASE_URL", ← IO.getEnv "LEDGER_HISTORY_CAPACITY",
    ← IO.getEnv "LOG_LEVEL", ← IO.getEnv "LOG_FORMAT"⟩

def snapshotDepth : Nat := 1000

def parseSnapshot (text : String) : Option Database :=
  (Json.ofChars? snapshotDepth text.toList).bind Storage.Snapshot.toDatabase?

/-- The contents of a file, which is empty if it was not there before and may be made. -/
def readContents (path : String) (canCreate : Bool) : IO String := do
  if canCreate then
    let handle ← IO.FS.Handle.mk path .append
    handle.flush
  IO.FS.readFile path

def openDatabase (location : Location) : IO (Option Database) := do
  match location.place with
  | .memory => return some Database.blank
  | .nowhere => return none
  | .file path =>
    try
      let text ← readContents path location.canCreate
      return if text.isEmpty then some Database.blank else parseSnapshot text
    catch _ => return none

def keepDatabase (location : Location) (db : Database) : IO Unit :=
  match location.place with
  | .file path =>
    if location.canWrite then IO.FS.writeFile path (Storage.Snapshot.ofDatabase db).line
    else return ()
  | _ => return ()

def conclude : Exit → IO UInt32
  | .printed out => do
    (← IO.getStdout).putStr out
    return 0
  | .failed err => do
    (← IO.getStderr).putStr err
    return 1
  | .broken fault => do
    (← IO.getStderr).putStr (CommandLine.errorLine (fault.message?.getD "unsuitable value"))
    return 1
  | .stopped code => do
    if code = 0 then IO.println usage else IO.eprintln usage
    return code

def run (arguments : List String) : IO UInt32 := do
  let plan := CommandLine.plan (← environment) arguments
  match plan with
  | .finished exit => conclude exit
  | .work location _ _ =>
    match ← openDatabase location with
    | none => conclude (CommandLine.failed (.storage Storage.Database.openError))
    | some db =>
      let (exit, db) := plan.run db
      keepDatabase location db
      conclude exit

end MetricLedger.Program

def main (arguments : List String) : IO UInt32 := MetricLedger.Program.run arguments
