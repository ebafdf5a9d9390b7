import MetricLedger.Json.Value
import MetricLedger.Malformed
import MetricLedger.Number.Integer

/-!
# Looking into a value

The parts of a value that a reader of stored data asks for, or the cause for which it has none.
-/

namespace MetricLedger.Json.Value

/-- The member of that name, which an object has to have. -/
def field (v : Value) (name : String) : Except Malformed Value :=
  match v with
  | .object members =>
    match members.lookup name with
    | some value => .ok value
    | none => .error (.missing name)
  | _ => .error .mismatch

/-- What a value runs through: items, names of members, or characters. -/
def elements : Value → Except Malformed (List Value)
  | .array items => .ok items
  | .object members => .ok (members.map fun (name, _) => .text name)
  | .text s => .ok (s.toList.map fun c => .text (String.singleton c))
  | _ => .error .mismatch

/-- Numbers lose their fraction, the two truth values count as one and zero, and text is read. -/
def toInteger : Value → Except Malformed Int
  | .integer n => .ok n
  | .bool b => .ok (if b then 1 else 0)
  | .real .nan => .error .unreadable
  | .real x =>
    match x.toInt? with
    | some n => .ok n
    | none => .error .unbounded
  | .text s =>
    match Integer.ofText? s with
    | some n => .ok n
    | none => .error .unreadable
  | _ => .error .mismatch

end MetricLedger.Json.Value
