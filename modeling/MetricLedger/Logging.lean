import MetricLedger.Malformed
import MetricLedger.Text.Case
import MetricLedger.Text.Split

/-!
# Log lines

Records at or above a level go out in one of two forms. The form with braces puts the texts in as
they are.
-/

namespace MetricLedger

structure LogRecord where
  level : Nat
  logger : String
  message : String
deriving DecidableEq, Repr, Inhabited

structure LogSetup where
  level : String := "INFO"
  format : String := "text"
deriving DecidableEq, Repr, Inhabited

namespace Logging

def levels : List (String × Nat) := [
  ("CRITICAL", 50), ("FATAL", 50), ("ERROR", 40), ("WARNING", 30), ("WARN", 30), ("INFO", 20),
  ("DEBUG", 10), ("NOTSET", 0)]

def levelName (level : Nat) : String :=
  match levels.find? (·.2 = level) with
  | some (name, _) => name
  | none => s!"Level {level}"

/-- The level of a name in any case. An unknown name stands for the level of information; two names
are reserved and are no levels. -/
def threshold (name : String) : Except Malformed Nat :=
  match Text.upper name with
  | "BASIC_FORMAT" => .error .unreadable
  | "_STYLES" => .error .mismatch
  | name => .ok ((levels.lookup name).getD 20)

def loggerName (logger : String) : String := if logger = "" then "root" else logger

def padTo (width : Nat) (text : String) : String :=
  text ++ String.ofList (List.replicate (width - text.length) ' ')

def textForm (time : String) (r : LogRecord) : String :=
  " | ".intercalate [time, padTo 8 (levelName r.level), loggerName r.logger, r.message]

def bracedForm (time : String) (r : LogRecord) : String :=
  let entry (name text : String) := s!"\"{name}\": \"{text}\""
  let entries := [
    entry "timestamp" time, entry "level" (levelName r.level),
    entry "logger" (loggerName r.logger), entry "message" r.message]
  "\x7b" ++ ", ".intercalate entries ++ "\x7d"

/-- Only this very word asks for the form with braces. -/
def form (format time : String) (r : LogRecord) : String :=
  if format = "json" then bracedForm time r else textForm time r

/-- The lines that the records which reach the level take up, as a reader sees them who ends a line
at every line end of Unicode and not only at the one that ends a record. A record of level zero
never reaches the level. One time stands for the times of all records. -/
def lines (setup : LogSetup) (time : String) (records : List LogRecord) :
    Except Malformed (List String) := do
  let least ← threshold setup.level
  let kept := records.filter fun r => least ≤ r.level && 0 < r.level
  let written := kept.flatMap fun r => (form setup.format time r).toList ++ ['\n']
  return (Text.lines written).map String.ofList

def mainLogger : String := "ledger"

def handlerCount : Nat := 1

end Logging

end MetricLedger
