import MetricLedger.Number.Decimal
import MetricLedger.Text.Blank

/-!
# Reading decimals

A decimal stands between blanks of any kind. Underscores are left out wherever they stand, digits
may come from any script, and the letters of the exponent and of the words are of either case.
-/

namespace MetricLedger.Decimal

open Text

/-- Puts the ASCII digit for each digit of another script; no other character may be outside
ASCII. -/
def asciiForm? (text : List Char) : Option (List Char) :=
  text.mapM fun c => if c.toNat < 128 then some c else (digitValue? c).map Nat.digitChar

def digits? (text : List Char) : Option Nat :=
  if text ≠ [] ∧ text.all Char.isDigit then some (asciiValue text) else none

def exponent? : List Char → Option Int
  | [] => some 0
  | c :: rest =>
    if c = 'e' ∨ c = 'E' then
      match rest with
      | '-' :: text => (digits? text).map fun n => -(n : Int)
      | '+' :: text => (digits? text).map Int.ofNat
      | text => (digits? text).map Int.ofNat
    else none

/-- Digits with at most one point among them, and then the exponent. -/
def number? (negative : Bool) (text : List Char) : Option Decimal := do
  let whole := text.takeWhile Char.isDigit
  let (fraction, rest) := match text.dropWhile Char.isDigit with
    | '.' :: rest => (rest.takeWhile Char.isDigit, rest.dropWhile Char.isDigit)
    | rest => ([], rest)
  if whole = [] ∧ fraction = [] then none
  let exponent ← exponent? rest
  bounded? negative (asciiValue (whole ++ fraction)) (exponent - fraction.length)

def payload? (text : List Char) : Option Nat :=
  if text = [] then some 0 else digits? text

def unsigned? (negative : Bool) (text : List Char) : Option Decimal :=
  match text.map Char.toLower with
  | ['i', 'n', 'f'] => some (.infinite negative)
  | ['i', 'n', 'f', 'i', 'n', 'i', 't', 'y'] => some (.infinite negative)
  | 'n' :: 'a' :: 'n' :: rest => (payload? rest).map (.nan negative false)
  | 's' :: 'n' :: 'a' :: 'n' :: rest => (payload? rest).map (.nan negative true)
  | _ => number? negative text

def signed? : List Char → Option Decimal
  | '-' :: rest => unsigned? true rest
  | '+' :: rest => unsigned? false rest
  | text => unsigned? false text

def ofChars? (text : List Char) : Option Decimal :=
  (asciiForm? ((trim isBlank text).filter (· != '_'))).bind signed?

def ofText? (text : String) : Option Decimal := ofChars? text.toList

end MetricLedger.Decimal
