import MetricLedger.Number.Decimal

/-!
# Rates in submissions

A submitted rate is a decimal in fixed point: digits, and perhaps a point with one to eighteen more
digits. Counted in units of its last place it has to fit in 128 bits.
-/

namespace MetricLedger

open Text

/-- Why a text is no rate. Of several causes the first in this order counts. -/
inductive RateFault where
  | notFixedPoint
  | tooManyPlaces
  | tooBig
deriving DecidableEq, Repr, Inhabited

namespace Rate

def places : Nat := 18

def greatest : Nat := 2 ^ 128 - 1

/-- How many digits the greatest rate has before the point. -/
def wholePlaces : Nat := 21

def split? (text : List Char) : Option (List Char × List Char) :=
  let whole := text.takeWhile Char.isDigit
  match whole, text.dropWhile Char.isDigit with
  | [], _ => none
  | _, [] => some (whole, [])
  | _, '.' :: fraction =>
    if fraction ≠ [] ∧ fraction.all Char.isDigit then some (whole, fraction) else none
  | _, _ => none

/-- The digits without the zeros in front of them, or a single zero. -/
def significant (whole : List Char) : List Char :=
  match whole.dropWhile (· == '0') with
  | [] => ['0']
  | digits => digits

/-- The digits after the point, with zeros up to the last place. -/
def padded (fraction : List Char) : List Char :=
  fraction ++ List.replicate (places - fraction.length) '0'

def units (whole fraction : List Char) : Nat :=
  asciiValue whole * 10 ^ places + if fraction = [] then 0 else asciiValue (padded fraction)

/-- The decimal keeps the places that are written. -/
def ofText (text : String) : Except RateFault Decimal :=
  match split? text.toList with
  | none => .error .notFixedPoint
  | some (whole, fraction) =>
    if places < fraction.length then .error .tooManyPlaces
    -- a number with more digits is too big whatever they are, and is not worked out
    else if wholePlaces < (significant whole).length then .error .tooBig
    else if greatest < units (significant whole) fraction then .error .tooBig
    else .ok (.finite false (asciiValue (whole ++ fraction)) (-(fraction.length : Int)))

end Rate

def RateFault.reason : RateFault → String
  | notFixedPoint => "Error parsing decimal"
  | tooManyPlaces => s!"Cannot parse more than {Rate.places} fractional digits"
  | tooBig => "Value too big"

end MetricLedger
