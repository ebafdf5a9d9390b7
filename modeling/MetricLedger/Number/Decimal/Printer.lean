import MetricLedger.Number.Decimal

/-!
# Writing decimals

The full text of a decimal keeps its digits and exponent. It is positional while no zeros have to
be added before the point and at most five after it, and scientific otherwise. The plain text is
always positional.
-/

namespace MetricLedger.Decimal

open Text

/-- Puts the point after so many digits, with the zeros that this needs. -/
def placePoint (digits : List Char) (point : Int) : List Char :=
  if point ≤ 0 then '0' :: '.' :: (List.replicate (-point).toNat '0' ++ digits)
  else if digits.length ≤ point.toNat then
    digits ++ List.replicate (point.toNat - digits.length) '0'
  else digits.take point.toNat ++ '.' :: digits.drop point.toNat

def positional (coefficient : Nat) (exponent : Int) : List Char :=
  let digits := numeral coefficient
  placePoint digits (digits.length + exponent)

def scientific (coefficient : Nat) (exponent : Int) : List Char :=
  let digits := numeral coefficient
  let power := leadingPower coefficient exponent
  let fraction := digits.drop 1
  digits.take 1 ++ (if fraction.isEmpty then [] else '.' :: fraction) ++
    'E' :: (if power < 0 then '-' else '+') :: numeral power.natAbs

def withSign (negative : Bool) (body : List Char) : List Char :=
  if negative then '-' :: body else body

def nanBody (signaling : Bool) (payload : Nat) : List Char :=
  (if signaling then "sNaN".toList else "NaN".toList) ++ (if payload = 0 then [] else numeral payload)

def chars : Decimal → List Char
  | .finite negative c e =>
    withSign negative <|
      if e ≤ 0 ∧ -6 ≤ leadingPower c e then positional c e else scientific c e
  | .infinite negative => withSign negative "Infinity".toList
  | .nan negative signaling payload => withSign negative (nanBody signaling payload)

def text (d : Decimal) : String := String.ofList d.chars

example : chars (.finite false 100 2) = "1.00E+4".toList := by decide

example : chars (.finite true 15 (-7)) = "-0.0000015".toList := by decide

example : chars (.finite false 1 (-7)) = "1E-7".toList := by decide

def plainChars : Decimal → List Char
  | .finite negative c e => withSign negative (positional c e)
  | d => d.chars

end MetricLedger.Decimal
