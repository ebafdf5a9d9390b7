import MetricLedger.Number.Decimal.Printer
import MetricLedger.Number.Rounding

/-!
# The canonical text of a decimal

A decimal is rounded to 28 digits, a half going to the even neighbour, and written in plain
notation without zeros at its end. A value too great for the working range has no canonical text,
and neither has a signaling decimal.
-/

namespace MetricLedger.Decimal

open Text

def precision : Nat := 28

/-- The greatest power of ten of a first digit in the working range. -/
def workingPower : Int := 999999

/-- The least exponent in the working range. -/
def workingExponent : Int := -1000026

def dropDigits (n count : Nat) : Nat :=
  if (numeral n).length < count then 0 else roundDiv n (10 ^ count)

def excess (coefficient : Nat) (exponent : Int) : Nat :=
  max ((numeral coefficient).length - precision) (workingExponent - exponent).toNat

/-- The value rounded into the working range, in its shortest form. -/
def canonical? : Decimal → Option Decimal
  | .finite negative c e =>
    let count := if c = 0 then 0 else excess c e
    let rounded := dropDigits c count
    if rounded ≠ 0 ∧ workingPower < leadingPower rounded (e + count) then none
    else some (reduced negative rounded (e + count))
  | .infinite negative => some (.infinite negative)
  | .nan negative signaling payload =>
    if signaling then none else some (.nan negative false (payload % 10 ^ precision))

def canonicalText? (d : Decimal) : Option String :=
  d.canonical?.map fun c => String.ofList c.plainChars

example : (finite false 10300 (-4)).canonicalText? = some "1.03" := by cbv

example : (finite true 0 5).canonicalText? = some "-0" := by cbv

end MetricLedger.Decimal
