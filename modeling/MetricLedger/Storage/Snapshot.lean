import MetricLedger.Storage.Database

/-!
# Snapshots

A database as one JSON value: the rows of each table under its name, and the configuration row.
-/

namespace MetricLedger.Storage.Snapshot

open Json (Value)

def ofConfig (row : ConfigRow) : Value :=
  .object [
    ("admin_address", .text row.admin),
    ("transfer_channel_id", Value.ofOption row.channel),
    ("contract_name", .text row.contractName),
    ("contract_version", .text row.contractVersion)]

def configName : String := "oracle_config"

def ofTables (t : Tables) : Value :=
  let rows (name : TableName) : String × Value := (name.label, .object (t.table name).rows)
  .object [
    rows .metrics, rows .redemptionRates, rows .purchaseRates,
    (configName, (t.config.map ofConfig).getD .null)]

def ofDatabase (db : Database) : Value := (db.tables?.map ofTables).getD .null

def text? (v : Value) (name : String) : Option String :=
  match v.member? name with
  | some (.text s) => some s
  | _ => none

def config? (v : Value) : Option ConfigRow := do
  return ⟨← text? v "admin_address", text? v "transfer_channel_id", ← text? v "contract_name",
    ← text? v "contract_version"⟩

def table? (v : Value) (name : TableName) : Option Table :=
  match v.member? name.label with
  | some (.object rows) => some (rows.foldl (fun t (key, payload) => t.put key payload) .empty)
  | _ => none

def tables? (v : Value) : Option Tables := do
  return ⟨← table? v .metrics, ← table? v .redemptionRates, ← table? v .purchaseRates,
    (v.member? configName).bind config?⟩

def toDatabase? (v : Value) : Option Database :=
  match v with
  | .null => some Database.blank
  | v => (tables? v).map fun t => { tables? := some t }

end MetricLedger.Storage.Snapshot
