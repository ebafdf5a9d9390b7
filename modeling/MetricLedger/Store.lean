import MetricLedger.RateRecord
import MetricLedger.Storage.History

/-!
# Stores

A store keeps one history for each key, in a table of its own. A history starts with the first item
that is recorded under its key and is never removed. A row that cannot be read is an error of the
storage, and stays as it is.
-/

namespace MetricLedger

open Json (Value)
open Storage (Action TableName)

structure Store (α : Type) where
  name : String
  table : TableName
  codec : Codec α

namespace Store

def metrics : Store Metric := ⟨"metric", .metrics, Metric.codec⟩

def rateTable : RateKind → TableName
  | .redemption => .redemptionRates
  | .purchase => .purchaseRates

def rates (kind : RateKind) : Store RateRecord :=
  ⟨kind.label, rateTable kind, RateRecord.codec kind⟩

variable {α : Type} [Timed α]

def decode (store : Store α) (key : String) (payload : Value) : Action (Series α) :=
  match Series.ofStored store.codec payload with
  | .ok series => pure series
  | .error fault =>
    if fault.isUnreadable then Action.fail (.unreadable store.table.label key fault)
    else throw (.malformed fault)

/-- The history of a key. A row that holds null counts as none. -/
def load? (store : Store α) (key : String) : Action (Option (Series α)) := do
  match ← Storage.History.load? store.table key with
  | none => return none
  | some .null => return none
  | some payload => return some (← store.decode key payload)

def load (store : Store α) (key : String) : Action (Series α) := do
  match ← store.load? key with
  | some series => return series
  | none => Action.refuse (.notFound store.name key)

/-- Adds an item to the history of a key; a new history gets this capacity. -/
def record (store : Store α) (capacity : Int) (key : String) (x : α) : Action Outcome := do
  let series := (← store.load? key).getD (Series.empty capacity)
  let (grown, outcome) := series.add x
  Storage.History.save store.table key (← Action.ofExcept (grown.toStored store.codec))
  return outcome

def latest (store : Store α) (key : String) : Action α := do
  match (← store.load key).latest? with
  | some x => return x
  | none => Action.refuse (.notFound store.name key)

/-- The newest first, at most `limit` of them if there is a limit. -/
def historical (store : Store α) (key : String) (limit : Option Nat) : Action (List α) := do
  let series ← store.load key
  return match limit with
    | none => series.newestFirst
    | some n => series.newest n

/-- The latest item of each key, in ascending order of the keys. -/
def allLatest (store : Store α) : Action (List α) := do
  let rows ← Storage.History.loadAll store.table
  let latest ← rows.mapM fun (key, payload) => return (← store.decode key payload).latest?
  return latest.filterMap id

end Store

end MetricLedger
