import MetricLedger.Json.Field
import MetricLedger.Series

/-!
# Stored histories

A history is stored as its capacity and the stored forms of its items. On reading, the items come
first, then their order, then the capacity.
-/

namespace MetricLedger

open Json (Value)

structure Codec (α : Type) where
  encode : α → Except Malformed Value
  decode : Value → Except Malformed α

namespace Series

variable {α : Type} [Timed α]

def toStored (codec : Codec α) (s : Series α) : Except Malformed Value := do
  let items ← s.items.mapM codec.encode
  return .object [("capacity", .integer s.capacity), ("items", .array items)]

def ofStored (codec : Codec α) (v : Value) : Except Malformed (Series α) := do
  let items ← (← (← v.field "items").elements).mapM codec.decode
  if h : Ascending items then
    let capacity ← (← v.field "capacity").toInteger
    return ⟨capacity, items, h⟩
  else throw .unordered

end Series

end MetricLedger
