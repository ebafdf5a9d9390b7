import MetricLedger.Storage.Session

/-!
# The configuration row

There is at most one. Its admin, name and version must not be missing.
-/

namespace MetricLedger.Storage.Config

def repository : String := "oracle_config"

def load? : Action (Option ConfigRow) := do
  return (← Action.tables repository "get_by_id").config

def load : Action ConfigRow := do
  match ← load? with
  | some row => return row
  | none => Action.fail (.notFound repository "config_id" "1")

def write (operation : String) (tables : Tables) (row? : Option ConfigRow) : Action ConfigRow := do
  match row? with
  | some row =>
    Action.write repository operation { tables with config := some row }
    return row
  | none => Action.reject repository operation "a value is missing"

def save (admin channel name version : Option String) : Action ConfigRow := do
  let tables ← Action.tables repository "get_by_id"
  let operation := if tables.config.isSome then "flush" else "add"
  write operation tables do
    return ⟨← admin, channel, ← name, ← version⟩

def setVersion (version : Option String) : Action Unit := do
  let row ← load
  let tables ← Action.tables repository "get_by_id"
  let _ ← write "flush" tables (version.map fun v => { row with contractVersion := v })

end MetricLedger.Storage.Config
