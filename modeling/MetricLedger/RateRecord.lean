import MetricLedger.Metric
import MetricLedger.Number.Decimal.Canonical
import MetricLedger.Number.Decimal.Value

/-!
# Rate records

The rate of a token at a time. It is stored by its canonical text, so a record that was read back
has the rounded rate.
-/

namespace MetricLedger

open Json (Value)

structure RateRecord where
  kind : RateKind
  denom : Value
  rate : Decimal
  updateTime : Int
deriving DecidableEq, Repr, Inhabited

namespace RateRecord

instance : Timed RateRecord := ⟨updateTime⟩

def rateText (r : RateRecord) : Except Malformed String :=
  match r.rate.canonicalText? with
  | some text => .ok text
  | none => .error (.unwritable r.rate)

def toStored (r : RateRecord) : Except Malformed Value := do
  return .object [
    ("denom", r.denom),
    (r.kind.label, .text (← r.rateText)),
    ("update_time", .integer r.updateTime)]

/-- Reads the rate first, then the denom and the time. -/
def ofStored (kind : RateKind) (v : Value) : Except Malformed RateRecord := do
  let rate ← Decimal.ofValue (← v.field kind.label)
  let denom ← v.field "denom"
  let updateTime ← (← v.field "update_time").toInteger
  return ⟨kind, denom, rate, updateTime⟩

def toAnswer (r : RateRecord) : Except Malformed Value := do
  return .object [(r.kind.label, .text (← r.rateText)), ("update_time", .integer r.updateTime)]

/-- The same record, with rates compared by value. -/
def same (r r' : RateRecord) : Bool :=
  r.kind == r'.kind && r.denom == r'.denom && r.rate.sameValue r'.rate &&
    r.updateTime == r'.updateTime

def codec (kind : RateKind) : Codec RateRecord := ⟨toStored, ofStored kind⟩

end RateRecord

end MetricLedger
