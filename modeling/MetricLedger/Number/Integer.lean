import MetricLedger.Text.Blank
import MetricLedger.Text.Digit

/-!
# Integers in text

An integer may stand between blanks and may start with one sign. Its digits may come from any
script, single underscores may stand between them, and there are at most 4300.
-/

namespace MetricLedger.Integer

open Text

def digitLimit : Nat := 4300

/-- The blanks that may surround an integer. -/
def isMargin (c : Char) : Bool := isBlank c && !isSeparator c

/-- Digits, with single underscores between them. -/
def groupedDigits? : List Char → Option (List Nat)
  | [] => none
  | [c] => (digitValue? c).map ([·])
  | c :: '_' :: rest => do
    let d ← digitValue? c
    return d :: (← groupedDigits? rest)
  | c :: rest => do
    let d ← digitValue? c
    return d :: (← groupedDigits? rest)

def natural? (text : List Char) : Option Nat :=
  match groupedDigits? text with
  | some digits => if digits.length ≤ digitLimit then some (digitsValue digits) else none
  | none => none

def signed? : List Char → Option Int
  | '-' :: rest => (natural? rest).map fun n => -(n : Int)
  | '+' :: rest => (natural? rest).map Int.ofNat
  | text => (natural? text).map Int.ofNat

def ofText? (text : String) : Option Int := signed? (trim isMargin text.toList)

/-- The digits of an integer, after a minus sign if it is negative. -/
def chars (n : Int) : List Char := if n < 0 then '-' :: numeral n.natAbs else numeral n.natAbs

def text (n : Int) : String := String.ofList (chars n)

end MetricLedger.Integer
