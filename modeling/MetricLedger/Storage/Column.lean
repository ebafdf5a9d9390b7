import MetricLedger.Json.Value
import MetricLedger.Storage.Numeral

/-!
# Numbers in a column

A column keeps any JSON value as it is, except for a value that is a number altogether. An integer
that fits into 64 bits stays one. Any other number becomes the floating point number that the database
reads, and if the value of that is an integer that fits, this integer.
-/

namespace MetricLedger.Storage.Column

open Json (Value)

/-- The integer that a number is, if it is one. -/
def whole? (x : Binary64) : Option Int :=
  match x with
  | .finite _ mantissa exponent => if mantissa % 2 ^ (-exponent).toNat = 0 then x.toInt? else none
  | .infinite _ | .nan => none

/-- The two ends of the range are left out. -/
def keepReal (x : Binary64) : Value :=
  match whole? x with
  | some n => if -(2 ^ 63) < n ∧ n < 2 ^ 63 - 1 then .integer n else .real x
  | none => .real x

def keepInteger (n : Int) : Value :=
  if -(2 ^ 63) ≤ n ∧ n < 2 ^ 63 then .integer n else keepReal (Numeral.ofInteger n)

/-- What a column keeps of a value. -/
def keep : Value → Value
  | .integer n => keepInteger n
  | .real x => keepReal (Numeral.reread x)
  | v => v

example : keepReal (.finite true 3 1) = .integer (-6) := by decide

example : keepReal (.finite false 3 (-1)) = .real (.finite false 3 (-1)) := by decide

end MetricLedger.Storage.Column
