import MetricLedger.Store

/-!
# Queries

Questions about metrics by key and about rates by denom. Questions about rates have parameters,
which must be left out. What is asked is checked before anything is looked up, the parameters first.
-/

namespace MetricLedger.Query

open Json (Value)
open Storage (Action)

def checkParams (params : Value) : Except Refusal Unit :=
  if params.isNull then .ok () else .error (.badRequest .hasParams)

def limit? : Value → Except Refusal (Option Nat)
  | .null => .ok none
  | .integer n => if 0 ≤ n then .ok (some n.toNat) else .error (.badRequest .badLimit)
  | _ => .error (.badRequest .badLimit)

def latestMetric (key : String) : Action Metric := Store.metrics.latest key

def historicalMetrics (key : String) (limit : Value) : Action (List Metric) := do
  let limit ← Action.ofChecked (limit? limit)
  Store.metrics.historical key limit

def allLatestMetrics : Action (List Metric) := Store.metrics.allLatest

def latestRate (kind : RateKind) (denom : String) (params : Value) : Action RateRecord := do
  Action.ofChecked (checkParams params)
  (Store.rates kind).latest denom

def historicalRates (kind : RateKind) (denom : String) (params limit : Value) :
    Action (List RateRecord) := do
  Action.ofChecked (checkParams params)
  let limit ← Action.ofChecked (limit? limit)
  (Store.rates kind).historical denom limit

end MetricLedger.Query
