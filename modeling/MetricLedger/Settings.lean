import MetricLedger.Number.Integer
import MetricLedger.Refusal

/-!
# Settings

Where the ledger keeps its data, how long new histories may grow, and how it logs. Settings come
from the environment, and flags go over them. A variable or flag that is empty counts as not given.
A file of variables, which may stand in for those that are not set, is left out: the environment
here is the one after such a file was read.
-/

namespace MetricLedger

structure Settings where
  databaseUrl : String
  capacity : Int
  logLevel : String
  logFormat : String
deriving DecidableEq, Repr, Inhabited

structure Environment where
  databaseUrl : Option String
  capacity : Option String
  logLevel : Option String
  logFormat : Option String
deriving DecidableEq, Repr, Inhabited

structure Flags where
  databaseUrl : Option String
  capacity : Option Int
  logLevel : Option String
  logFormat : Option String
deriving DecidableEq, Repr, Inhabited

/-- A text that is there and not empty. -/
def given? (text? : Option String) : Option String := text?.filter (· ≠ "")

namespace Settings

def defaults : Settings := ⟨"sqlite:///oracle_ledger.db", 100, "INFO", "text"⟩

/-- Settings in order: the capacity is looked at first, then the level in upper case, then the
format in lower case. -/
def check (s : Settings) : Except Refusal Settings :=
  let level := Text.upper s.logLevel
  let format := Text.lower s.logFormat
  if s.capacity < 1 then .error (.smallCapacity s.capacity)
  else if !Refusal.logLevels.contains level then .error (.unknownLevel level)
  else if !Refusal.logFormats.contains format then .error (.unknownFormat format)
  else .ok ⟨s.databaseUrl, s.capacity, level, format⟩

def capacityOf (text? : Option String) : Except Refusal Int :=
  match given? text? with
  | none => .ok defaults.capacity
  | some text =>
    match Integer.ofText? text with
    | some n => .ok n
    | none => .error (.unreadCapacity text)

def ofEnvironment (e : Environment) : Except Refusal Settings := do
  let capacity ← capacityOf e.capacity
  check {
    databaseUrl := (given? e.databaseUrl).getD defaults.databaseUrl
    capacity := capacity
    logLevel := (given? e.logLevel).getD defaults.logLevel
    logFormat := (given? e.logFormat).getD defaults.logFormat }

def overlay (s : Settings) (f : Flags) : Settings where
  databaseUrl := (given? f.databaseUrl).getD s.databaseUrl
  capacity := f.capacity.getD s.capacity
  logLevel := (given? f.logLevel).getD s.logLevel
  logFormat := (given? f.logFormat).getD s.logFormat

/-- The environment has to be in order by itself before the flags go over it. -/
def build (e : Environment) (f : Flags) : Except Refusal Settings := do
  check ((← ofEnvironment e).overlay f)

end Settings

end MetricLedger
