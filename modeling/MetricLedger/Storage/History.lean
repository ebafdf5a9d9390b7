import MetricLedger.Json.Entries
import MetricLedger.Storage.Session

/-!
# Stored histories by key

Loading and saving of the rows of a table, without a look at what they hold.
-/

namespace MetricLedger.Storage.History

open Json (Entries Value)

def load? (name : TableName) (key : String) : Action (Option Value) := do
  return ((← Action.tables name.label "get_by_id").table name).get? key

def isStored (name : TableName) (key : String) : Action Bool := do
  return (← load? name key).isSome

/-- Adds a row or overwrites it. A new row is what the column keeps. A row that is there is
overwritten by an object only, and stays as it is if it holds the same object. -/
def save (name : TableName) (key : String) (payload : Value) : Action Unit := do
  let tables ← Action.tables name.label "get_by_id"
  match (tables.table name).get? key with
  | none => Action.write name.label "add" (tables.put name key (Column.keep payload))
  | some stored =>
    let entries ← Action.ofExcept (Entries.ofValue payload)
    Action.write name.label "flush"
      (if entries.sameAs stored then tables else tables.put name key entries.toObject)

/-- Leaves a new row to the next write or commit. -/
def stage (name : TableName) (key : String) (payload : Value) : Action Unit :=
  modify fun v => { v with staged := v.staged ++ [⟨name, key, payload⟩] }

/-- All rows, sorted by their keys, whatever order the database has them in. -/
def loadAll (name : TableName) : Action (List Row) := do
  let rows := ((← Action.tables name.label "query").table name).rows
  return rows.mergeSort fun r r' => r.1 ≤ r'.1

end MetricLedger.Storage.History
