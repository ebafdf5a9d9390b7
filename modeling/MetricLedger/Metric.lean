import MetricLedger.Attributes
import MetricLedger.MetricType
import MetricLedger.Series.Stored

/-!
# Metrics

A metric is a value under a key at a time. A submitted metric has a text for its key; one that was
stored by other means may have anything there. The value may be anything, and is kept as it stands.
-/

namespace MetricLedger

open Json (Value)

structure Metric where
  key : Value
  value : Value
  type : MetricType
  updateTime : Int
  blockHeight : Int
  attributes : Option Payload
deriving DecidableEq, Repr, Inhabited

namespace Metric

instance : Timed Metric := ⟨updateTime⟩

def toStored (m : Metric) : Value :=
  .object [
    ("key", m.key),
    ("value", m.value),
    ("metric_type", m.type.toStored),
    ("update_time", .integer m.updateTime),
    ("block_height", .integer m.blockHeight),
    ("attributes", Payload.toStored m.attributes)]

/-- Reads the fields in this order, so the first one that fails gives the cause. -/
def ofStored (v : Value) : Except Malformed Metric := do
  let key ← v.field "key"
  let value ← v.field "value"
  let type ← MetricType.ofStored (← v.field "metric_type")
  let updateTime ← (← v.field "update_time").toInteger
  let blockHeight ← (← v.field "block_height").toInteger
  let attributes ← Payload.ofStored ((v.member? "attributes").getD .null)
  return ⟨key, value, type, updateTime, blockHeight, attributes⟩

def codec : Codec Metric := ⟨fun m => .ok m.toStored, ofStored⟩

end Metric

end MetricLedger
