import MetricLedger.RateAttributes
import MetricLedger.Store

/-!
# Submissions

A submitted metric goes into the history of its key. If it is a rate, its record then goes into the
history of the denom that its attributes name. The first write comes before the attributes and the
value are looked at, so a rate that is refused leaves the metric behind; whether it is kept is up to
the transaction. Keys and other texts of a submission are Unicode: halves of surrogate pairs, which
no table could take, are not among their characters.
-/

namespace MetricLedger

open Json (Value)
open Storage (Action)

structure Submission where
  key : String
  value : Value
  type : MetricType
  updateTime : Value
  blockHeight : Value
  attributes : Option Payload
deriving DecidableEq, Repr, Inhabited

namespace Submission

def greatestWord : Int := 2 ^ 64 - 1

/-- An integer of 64 bits without a sign. -/
def word (field : String) : Value → Except Refusal Int
  | .integer n => if 0 ≤ n ∧ n ≤ greatestWord then .ok n else .error (.badRequest (.notWord field))
  | _ => .error (.badRequest (.notWord field))

/-- The metric that is submitted, if its key, its time and its height are in order. -/
def metric (s : Submission) : Except Refusal Metric := do
  if s.key = "" then throw (.badRequest .emptyKey)
  let updateTime ← word "update_time" s.updateTime
  let blockHeight ← word "block_height" s.blockHeight
  return ⟨.text s.key, s.value, s.type, updateTime, blockHeight, s.attributes⟩

def denom (s : Submission) : Except Refusal String :=
  match s.attributes with
  | none => .error (.missingMetadata s.type)
  | some payload =>
    match RateAttributes.decode? payload with
    | none => .error (.invalidMetadata s.type)
    | some denom => .ok denom

/-- The rate that a value stands for. Only a text can be one. -/
def rateOf : Value → Except Failure Decimal
  | .text text =>
    match Rate.ofText text with
    | .ok rate => .ok rate
    | .error fault => .error (.refused (.invalidValue text fault))
  | _ => .error (.malformed .mismatch)

def rate (s : Submission) : Except Failure (String × Decimal) :=
  match s.denom with
  | .error refusal => .error (.refused refusal)
  | .ok denom => (rateOf s.value).map fun rate => (denom, rate)

def recordRate (capacity : Int) (kind : RateKind) (metric : Metric) (s : Submission) :
    Action Unit := do
  let (denom, rate) ← Action.ofResult s.rate
  let _ ← (Store.rates kind).record capacity denom ⟨kind, .text denom, rate, metric.updateTime⟩

/-- New histories get this capacity. -/
def submit (capacity : Int) (s : Submission) : Action Metric := do
  let metric ← Action.ofChecked s.metric
  let _ ← Store.metrics.record capacity s.key metric
  match s.type.rateKind? with
  | some kind => recordRate capacity kind metric s
  | none => pure ()
  return metric

end Submission

end MetricLedger
