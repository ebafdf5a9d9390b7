import MetricLedger.Number.Binary64
import MetricLedger.Text.Digit

/-!
# The shortest text of a binary number

Of all decimals that read back as the number take one with the fewest digits, and of those the
nearest. On each decimal grid only the two neighbours of the number have to be tried.
-/

namespace MetricLedger.Binary64

open Text

/-- The number and the bounds of what is read as it, in units of `2 ^ (exponent - 2)`. -/
structure Span where
  low : Nat
  value : Nat
  high : Nat
  closed : Bool

/-- Below a power of two the next number is only half as far away. -/
def Span.of (m : Nat) (e : Int) : Span where
  low := if m = leastMantissa ∧ leastExponent < e then 4 * m - 1 else 4 * m - 2
  value := 4 * m
  high := 4 * m + 2
  closed := m % 2 == 0

def Span.contains (s : Span) (scaled unit : Nat) : Bool :=
  if s.closed then s.low * unit ≤ scaled && scaled ≤ s.high * unit
  else s.low * unit < scaled && scaled < s.high * unit

/-- The decimal `c * 10 ^ p` on the grid of step `10 ^ p` that reads back, if there is one. -/
def onGrid? (m : Nat) (e p : Int) : Option Nat :=
  let s := Span.of m e
  let unit := 2 ^ (e - 2).toNat * 10 ^ (-p).toNat
  let step := 2 ^ (2 - e).toNat * 10 ^ p.toNat
  let c := s.value * unit / step
  let below := s.contains (c * step) unit
  let above := s.contains ((c + 1) * step) unit
  let nearBelow := s.value * unit - c * step
  let nearAbove := (c + 1) * step - s.value * unit
  if below && (!above || nearBelow < nearAbove || (nearBelow == nearAbove && c % 2 == 0)) then some c
  else if above then some (c + 1)
  else none

/-- The power of ten of the first digit of a positive number. -/
def leadingPower (m : Nat) (e : Int) : Int :=
  (numeral (m * 10 ^ 330 * 2 ^ e.toNat / 2 ^ (-e).toNat)).length - 331

/-- Goes from coarse grids to fine ones. -/
def search (m : Nat) (e : Int) (p : Int) : Nat → Nat × Int
  | 0 => ((onGrid? m e p).getD 0, p)
  | k + 1 =>
    match onGrid? m e p with
    | some c => (c, p)
    | none => search m e (p - 1) k

/-- The digits of the shortest decimal, and how many of them stand before the point. -/
def shortestDigits (m : Nat) (e : Int) : List Char × Int :=
  let (c, p) := search m e (leadingPower m e) 16
  let digits := numeral c
  let stripped := (digits.reverse.dropWhile (· == '0')).reverse
  (stripped, digits.length + p)

/-- Positional below `10 ^ 16` and from `10 ^ -4` on, else with an exponent of at least two
digits; an integer keeps one zero after its point. -/
def layout (digits : List Char) (point : Int) : List Char :=
  if -4 < point ∧ point ≤ 16 then
    if point ≤ 0 then
      '0' :: '.' :: (List.replicate (-point).toNat '0' ++ digits)
    else
      let n := point.toNat
      let whole := digits.take n ++ List.replicate (n - digits.length) '0'
      let fraction := digits.drop n
      whole ++ '.' :: (if fraction.isEmpty then ['0'] else fraction)
  else
    let power := point - 1
    let mark := if power < 0 then '-' else '+'
    let powerDigits := numeral power.natAbs
    let padded := List.replicate (2 - powerDigits.length) '0' ++ powerDigits
    let fraction := digits.drop 1
    digits.take 1 ++ (if fraction.isEmpty then [] else '.' :: fraction) ++ 'e' :: mark :: padded

example : layout ['1'] 16 = "1000000000000000.0".toList := by decide

example : layout ['1'] 17 = "1e+16".toList := by decide

example : layout ['1', '5'] (-3) = "0.00015".toList := by decide

example : layout ['1', '5'] (-4) = "1.5e-05".toList := by decide

def chars : Binary64 → List Char
  | .finite negative m e =>
    let body :=
      if m = 0 then ['0', '.', '0']
      else
        let (digits, point) := shortestDigits m e
        layout digits point
    if negative then '-' :: body else body
  | .infinite negative => if negative then "-inf".toList else "inf".toList
  | .nan => "nan".toList

def text (x : Binary64) : String := String.ofList x.chars

end MetricLedger.Binary64
