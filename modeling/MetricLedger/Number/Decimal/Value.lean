import MetricLedger.Malformed
import MetricLedger.Number.Decimal.Reader

/-!
# Decimals from JSON values

Numbers are taken exactly and text is read. An array stands for a decimal if it has three parts: a
sign, the digits and an exponent, or a letter for a special number.
-/

namespace MetricLedger.Decimal

open Json (Value)

/-- A digit in the middle part of a triple. -/
def digitOf : Value → Except Malformed Nat
  | .bool b => .ok (if b then 1 else 0)
  | .integer n =>
    if n < -0x8000000000000000 ∨ 0x7fffffffffffffff < n then .error .unbounded
    else if 0 ≤ n ∧ n ≤ 9 then .ok n.toNat
    else .error .unreadable
  | _ => .error .unreadable

/-- The exponent of a triple, or the letter of a special number. -/
def exponentOf : Value → Except Malformed (Int ⊕ Char)
  | .bool b => .ok (.inl (if b then 1 else 0))
  | .integer n =>
    if n < -0x8000000000000000 ∨ 0x7fffffffffffffff < n then .error .unbounded else .ok (.inl n)
  | .text "F" => .ok (.inr 'F')
  | .text "n" => .ok (.inr 'n')
  | .text "N" => .ok (.inr 'N')
  | _ => .error .unreadable

/-- A decimal from its sign (one for a minus), its digits and its exponent. `whole` is the value
that a message shows. -/
def ofTriple (whole sign digits exponent : Value) : Except Malformed Decimal := do
  let sign ← digitOf sign
  if 1 < sign then throw .unreadable
  let exponent ← exponentOf exponent
  let digits ← match digits with
    | .array digits => digits.mapM digitOf
    | _ => throw .unreadable
  let coefficient := Text.digitsValue digits
  match exponent with
  | .inr 'F' => return .infinite (sign == 1)
  | .inr letter => return .nan (sign == 1) (letter == 'N') coefficient
  | .inl exponent =>
    match bounded? (sign == 1) coefficient exponent with
    | some d => return d
    | none => throw (.notDecimal whole)

/-- A number is taken exactly, text is read, and an array has to be a triple. -/
def ofValue (v : Value) : Except Malformed Decimal :=
  match v with
  | .integer n => .ok (ofInt n)
  | .bool b => .ok (ofInt (if b then 1 else 0))
  | .real x => .ok (ofBinary64 x)
  | .text s =>
    match ofText? s with
    | some d => .ok d
    | none => .error (.notDecimal v)
  | .array [sign, digits, exponent] => ofTriple v sign digits exponent
  | .array _ => .error .unreadable
  | _ => .error .mismatch

end MetricLedger.Decimal
