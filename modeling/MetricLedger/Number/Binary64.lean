import MetricLedger.Number.Rounding

/-!
# Binary floating point numbers

A number of 64 bits is held exactly, as an integer times a power of two. Reading a decimal takes
the nearest number; what follows from it (the integer part, the exact decimal value, the shortest
text) needs integers only. Beside the finite numbers stand two infinities and what is not a number.
-/

namespace MetricLedger

inductive Binary64 where
  /-- The value `mantissa * 2 ^ exponent`, negated if `negative`. -/
  | finite (negative : Bool) (mantissa : Nat) (exponent : Int)
  | infinite (negative : Bool)
  | nan
deriving DecidableEq, Repr, Inhabited

namespace Binary64

def leastExponent : Int := -1074

def greatestExponent : Int := 971

/-- Two to the power of 52, the least mantissa of a number that is not close to zero. -/
def leastMantissa : Nat := 0x10000000000000

/-- The number nearest to a quotient, the one with an even mantissa if two are. -/
def nearest (negative : Bool) (num den : Nat) : Binary64 :=
  if num = 0 then .finite negative 0 leastExponent
  else
    let e := max (powerFor 52 num den) leastExponent
    let m := roundAt e num den
    let (m, e) := if m = 2 * leastMantissa then (leastMantissa, e + 1) else (m, e)
    if greatestExponent < e then .infinite negative else .finite negative m e

/-- Numerator and denominator of the amount of a finite number. -/
def fraction? : Binary64 → Option (Nat × Nat)
  | .finite _ m e => some (m * 2 ^ e.toNat, 2 ^ (-e).toNat)
  | .infinite _ | .nan => none

/-- The number nearest to a decimal of `digits` digits. Far outside the range no power is taken. -/
def ofDecimal (negative : Bool) (coefficient digits : Nat) (exponent : Int) : Binary64 :=
  if coefficient = 0 ∨ digits + exponent < -400 then .finite negative 0 leastExponent
  else if 400 < exponent then .infinite negative
  else nearest negative (coefficient * 10 ^ exponent.toNat) (10 ^ (-exponent).toNat)

def toInt? : Binary64 → Option Int
  | .finite negative m e =>
    let n : Int := m * 2 ^ e.toNat / 2 ^ (-e).toNat
    some (if negative then -n else n)
  | .infinite _ | .nan => none

/-- The value of a finite number, in units of `2 ^ leastExponent`. -/
def units? : Binary64 → Option Int
  | .finite negative m e =>
    let n : Int := m * 2 ^ (e - leastExponent).toNat
    some (if negative then -n else n)
  | .infinite _ | .nan => none

def unitsOfInt (n : Int) : Int := n * 2 ^ (-leastExponent).toNat

/-- Cancels up to `k` factors of two; the second part counts those that are left of the `k`. -/
def halve (m : Nat) : Nat → Nat × Nat
  | 0 => (m, 0)
  | k + 1 => if m % 2 = 0 then halve (m / 2) k else (m, k + 1)

/-- Coefficient and number of decimal places of the exact value. -/
def decimalParts (m : Nat) (e : Int) : Nat × Nat :=
  let (m, places) := halve m (-e).toNat
  (m * 2 ^ e.toNat * 5 ^ places, places)

end Binary64

end MetricLedger
