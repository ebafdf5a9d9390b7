import MetricLedger.Number.Extended
import MetricLedger.Number.Shortest

/-!
# How the database reads a number

The database gets a number as text and makes a floating point number of it. It takes as many digits
as fit into an integer of 63 bits and counts the others, moves as much of the power of ten into that
integer as it can, and scales it once in extended precision. So the result is not always the nearest
number.
-/

namespace MetricLedger.Storage.Numeral

open Text

/-- No digit is taken any more from here on. -/
def fullFrom : Nat := (2 ^ 63 - 10) / 10

/-- The integer that the first digits make up behind `n`, and the number of digits that are left. -/
def take (n : Nat) : List Nat → Nat × Nat
  | [] => (n, 0)
  | digit :: rest =>
    let n := 10 * n + digit
    if fullFrom ≤ n then (n, rest.length) else take n rest

/-- Moves up to `power` factors of ten into the integer, as long as there is room; the second part
counts those that are left. -/
def grow (n : Nat) : Nat → Nat × Nat
  | 0 => (n, 0)
  | power + 1 => if (2 ^ 63 - 1) / 10 ≤ n then (n, power + 1) else grow (10 * n) power

/-- Cancels up to `power` factors of ten; the second part counts those that are left. -/
def shrink (n : Nat) : Nat → Nat × Nat
  | 0 => (n, 0)
  | power + 1 => if n % 10 = 0 then shrink (n / 10) power else (n, power + 1)

/-- The greatest power of ten by which one step scales. -/
def stepLimit : Nat := 307

/-- From here on the result is infinite or zero. -/
def scaleLimit : Nat := 342

/-- What is left to scale by when the first step does not reach. -/
def wideStep : Nat := 10 ^ (stepLimit + 1)

/-- An integer times a power of ten. -/
def scaleUp (negative : Bool) (n power : Nat) : Binary64 :=
  let (n, power) := grow n power
  if n = 0 ∨ power = 0 then .nearest negative n 1
  else if power ≤ stepLimit then
    ((Extended.ofNat n).mul (.powerOfTen power)).toBinary64 negative
  else if power < scaleLimit then
    let first := (Extended.ofNat n).mul (.powerOfTen (power - stepLimit - 1))
    match (first.toBinary64 negative).fraction?, (Binary64.nearest false wideStep 1).fraction? with
    | some (num, den), some (num', den') => .nearest negative (num * num') (den * den')
    | _, _ => .infinite negative
  else .infinite negative

/-- An integer divided by a power of ten. -/
def scaleDown (negative : Bool) (n power : Nat) : Binary64 :=
  let (n, power) := shrink n power
  if n = 0 ∨ power = 0 then .nearest negative n 1
  else if power ≤ stepLimit then
    ((Extended.ofNat n).div (.powerOfTen power)).toBinary64 negative
  else if power < scaleLimit then
    let first := (Extended.ofNat n).div (.powerOfTen (power - stepLimit - 1))
    match (first.toBinary64 negative).fraction?, (Binary64.nearest false wideStep 1).fraction? with
    | some (num, den), some (num', den') => .nearest negative (num * den') (den * num')
    | _, _ => .nearest negative 0 1
  else .nearest negative 0 1

def digitsOf (digits : List Char) : List Nat := digits.map fun c => c.toNat - 0x30

/-- The digits with the point before the digit of that index. -/
def ofDigits (negative : Bool) (digits : List Char) (point : Int) : Binary64 :=
  let (n, left) := take 0 (digitsOf digits)
  let power := point - digits.length + left
  if 0 ≤ power then scaleUp negative n power.toNat else scaleDown negative n (-power).toNat

/-- What becomes of an integer that is no integer for the database. -/
def ofInteger (n : Int) : Binary64 :=
  let digits := numeral n.natAbs
  ofDigits (n < 0) digits digits.length

/-- What becomes of a number, which is written with the fewest digits. -/
def reread : Binary64 → Binary64
  | .finite negative m e =>
    if m = 0 then .finite negative m e
    else
      let (digits, point) := Binary64.shortestDigits m e
      ofDigits negative digits point
  | x => x

end MetricLedger.Storage.Numeral
