import MetricLedger.Number.Binary64
import MetricLedger.Text.Digit

/-!
# Decimals

A decimal keeps the digits and the exponent it was written with: `1.50` and `1.5` are the same
value and two decimals. Beside the finite ones stand two infinities and the numbers that are none.
-/

namespace MetricLedger

inductive Decimal where
  /-- The value `coefficient * 10 ^ exponent`, negated if `negative`. -/
  | finite (negative : Bool) (coefficient : Nat) (exponent : Int)
  | infinite (negative : Bool)
  /-- Not a number. A signaling one may be held but takes part in no operation. -/
  | nan (negative signaling : Bool) (payload : Nat)
deriving DecidableEq, Repr, Inhabited

namespace Decimal

open Text

/-- The power of ten of the first digit of a finite decimal. -/
def leadingPower (coefficient : Nat) (exponent : Int) : Int :=
  exponent + (numeral coefficient).length - 1

def greatestPower : Int := 999999999999999999

def leastExponent : Int := -1999999999999999997

/-- A finite decimal, unless its exponent is out of all bounds. -/
def bounded? (negative : Bool) (coefficient : Nat) (exponent : Int) : Option Decimal :=
  if leadingPower coefficient exponent ≤ greatestPower ∧ leastExponent ≤ exponent then
    some (.finite negative coefficient exponent)
  else none

def ofInt (n : Int) : Decimal := .finite (n < 0) n.natAbs 0

def ofBinary64 : Binary64 → Decimal
  | .finite negative m e =>
    let (coefficient, places) := Binary64.decimalParts m e
    .finite negative coefficient (-(places : Int))
  | .infinite negative => .infinite negative
  | .nan => .nan false false 0

/-- Takes the zeros off the end of a number, and counts them. -/
def stripZeros (n : Nat) : Nat × Nat :=
  if n ≠ 0 ∧ n % 10 = 0 then
    let (m, zeros) := stripZeros (n / 10)
    (m, zeros + 1)
  else (n, 0)
termination_by n
decreasing_by omega

/-- The shortest form of a finite value: no zeros at the end, and one form of each zero. -/
def reduced (negative : Bool) (coefficient : Nat) (exponent : Int) : Decimal :=
  if coefficient = 0 then .finite negative 0 0
  else
    let (c, zeros) := stripZeros coefficient
    .finite negative c (exponent + zeros)

/-- Equality of values. The two zeros are equal, and what is not a number equals nothing. -/
def sameValue : Decimal → Decimal → Bool
  | .finite n c e, .finite n' c' e' =>
    if c = 0 ∨ c' = 0 then c = c' else reduced n c e = reduced n' c' e'
  | .infinite n, .infinite n' => n = n'
  | _, _ => false

end Decimal

end MetricLedger
