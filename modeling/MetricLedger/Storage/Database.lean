import MetricLedger.Storage.Table

/-!
# Databases

Three tables of histories and one configuration row. A database has them all or, before they are
created, none.
-/

namespace MetricLedger.Storage

open Json (Value)

inductive TableName where
  | metrics
  | redemptionRates
  | purchaseRates
deriving DecidableEq, Repr, Inhabited

def TableName.label : TableName → String
  | metrics => "metric_histories"
  | redemptionRates => "redemption_rate_histories"
  | purchaseRates => "purchase_rate_histories"

structure ConfigRow where
  admin : String
  channel : Option String
  contractName : String
  contractVersion : String
deriving DecidableEq, Repr, Inhabited

def ConfigRow.summary (row : ConfigRow) : String :=
  let channel := row.channel.getD "None"
  s!"<OracleConfigRecord(admin_address={row.admin}, transfer_channel_id={channel})>"

structure Tables where
  metrics : Table
  redemptionRates : Table
  purchaseRates : Table
  config : Option ConfigRow

namespace Tables

def empty : Tables := ⟨.empty, .empty, .empty, none⟩

instance : Inhabited Tables := ⟨empty⟩

def table (t : Tables) : TableName → Table
  | .metrics => t.metrics
  | .redemptionRates => t.redemptionRates
  | .purchaseRates => t.purchaseRates

def setTable (t : Tables) (name : TableName) (table : Table) : Tables :=
  match name with
  | .metrics => { t with metrics := table }
  | .redemptionRates => { t with redemptionRates := table }
  | .purchaseRates => { t with purchaseRates := table }

def put (t : Tables) (name : TableName) (key : String) (value : Value) : Tables :=
  t.setTable name ((t.table name).put key value)

theorem table_setTable_self (t : Tables) (name : TableName) (table : Table) :
    (t.setTable name table).table name = table := by
  cases name <;> rfl

theorem table_setTable_ne (t : Tables) {name other : TableName} (h : other ≠ name)
    (table : Table) : (t.setTable name table).table other = t.table other := by
  cases name <;> cases other <;> first | rfl | exact absurd rfl h

theorem config_setTable (t : Tables) (name : TableName) (table : Table) :
    (t.setTable name table).config = t.config := by
  cases name <;> rfl

end Tables

/-- What is committed. -/
structure Database where
  tables? : Option Tables
  /-- Whether it can only be read. -/
  isFrozen : Bool := false

namespace Database

def blank : Database := { tables? := none }

def create (db : Database) : Database := { db with tables? := some (db.tables?.getD .empty) }

end Database

end MetricLedger.Storage
