import MetricLedger.Json.Field

/-!
# Types of metrics

A metric is a rate of one of the two kinds, or anything else under a name of its own. A name that
reads like a rate does not make a rate: the stored form keeps the two apart. The main statement is
that every type is read back from its stored form.
-/

namespace MetricLedger

open Json (Value)

inductive MetricType where
  | rate (kind : RateKind)
  | other (name : String)
deriving DecidableEq, Repr, Inhabited

namespace MetricType

def ofLabel (label : String) : MetricType :=
  match RateKind.ofLabel? label with
  | some kind => rate kind
  | none => other label

def label : MetricType → String
  | rate kind => kind.label
  | other name => name

def rateKind? : MetricType → Option RateKind
  | rate kind => some kind
  | other _ => none

theorem rateKind?_eq_some_iff {type : MetricType} {kind : RateKind} :
    type.rateKind? = some kind ↔ type = rate kind := by
  cases type with
  | rate kind' => simp [rateKind?]
  | other name => simp [rateKind?]

/-- A type from its parts: a rate takes no name, and any other type needs one. -/
def ofParts (kind? : Option RateKind) (name : Value) : Except Malformed MetricType :=
  match kind?, name with
  | some kind, .null => .ok (rate kind)
  | some kind, _ => .error (.namedRate kind)
  | none, .text name => .ok (other name)
  | none, _ => .error .unnamedType

def toStored : MetricType → Value
  | rate kind => .text kind.label
  | other name => .object [("other", .text name)]

def ofStored (v : Value) : Except Malformed MetricType :=
  match v with
  | .object [(field, name)] =>
    if field = "other" then ofParts none name else .error (.unknownType v)
  | .text label =>
    match RateKind.ofLabel? label with
    | some kind => .ok (rate kind)
    | none => .error (.unknownType v)
  | _ => .error (.unknownType v)

theorem ofStored_toStored (type : MetricType) : ofStored type.toStored = .ok type := by
  cases type with
  | rate kind => simp [toStored, ofStored, RateKind.ofLabel?_label]
  | other name => rfl

end MetricType

end MetricLedger
