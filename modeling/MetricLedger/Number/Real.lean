import MetricLedger.Number.Integer
import MetricLedger.Text.Split

/-!
# Real numbers in text

A real number may stand between blanks and may start with one sign. It has digits before or behind a
point, or on both sides, and may end with an exponent. Infinity and the value that is no number are
words.
-/

namespace MetricLedger.Real

open Text

def isDigits (text : List Char) : Bool := (Integer.groupedDigits? text).isSome

def isMantissa (text : List Char) : Bool :=
  match cutAt? '.' text with
  | none => isDigits text
  | some (whole, fraction) =>
    if whole.isEmpty then isDigits fraction
    else isDigits whole && (fraction.isEmpty || isDigits fraction)

def unsigned : List Char → List Char
  | '-' :: rest => rest
  | '+' :: rest => rest
  | text => text

def startsExponent (c : Char) : Bool := c = 'e' || c = 'E'

def isFinite (text : List Char) : Bool :=
  isMantissa (text.takeWhile (!startsExponent ·)) &&
    match text.dropWhile (!startsExponent ·) with
    | [] => true
    | _ :: exponent => isDigits (unsigned exponent)

def words : List String := ["inf", "infinity", "nan"]

def isReal (text : String) : Bool :=
  let body := unsigned (trim Integer.isMargin text.toList)
  words.contains (String.ofList (body.map Char.toLower)) || isFinite body

example : isReal " -1_0.e+5" = true ∧ isReal "." = false ∧ isReal "1_.5" = false := by decide

end MetricLedger.Real
