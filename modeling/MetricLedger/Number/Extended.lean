import MetricLedger.Number.Binary64

/-!
# Extended precision

Numbers above zero with a mantissa of 64 bits and any exponent. Each operation takes the number
nearest to its exact result, so a result that then goes into 64 bits altogether is rounded twice.
-/

namespace MetricLedger

/-- The value `mantissa * 2 ^ exponent`. -/
structure Extended where
  mantissa : Nat
  exponent : Int
deriving DecidableEq, Repr, Inhabited

namespace Extended

/-- The number nearest to a positive quotient, the one with an even mantissa if two are. -/
def nearest (num den : Nat) : Extended :=
  let e := powerFor 63 num den
  let m := roundAt e num den
  if m = 2 ^ 64 then ⟨2 ^ 63, e + 1⟩ else ⟨m, e⟩

def num (x : Extended) : Nat := x.mantissa * 2 ^ x.exponent.toNat

def den (x : Extended) : Nat := 2 ^ (-x.exponent).toNat

def ofNat (n : Nat) : Extended := nearest n 1

def mul (x y : Extended) : Extended := nearest (x.num * y.num) (x.den * y.den)

def div (x y : Extended) : Extended := nearest (x.num * y.den) (x.den * y.num)

def toBinary64 (negative : Bool) (x : Extended) : Binary64 := .nearest negative x.num x.den

/-- Multiplies `product` by a power of `base`, squaring the base for each of the `bits` binary digits
of the power. -/
def mulPower (product base : Extended) (power : Nat) : Nat → Extended
  | 0 => product
  | bits + 1 =>
    let product := if power % 2 = 1 then product.mul base else product
    mulPower product (base.mul base) (power / 2) bits

def powerOfTen (power : Nat) : Extended :=
  mulPower (ofNat 1) (ofNat 10) power (power.log2 + 1)

example : (powerOfTen 27).num = 10 ^ 27 * (powerOfTen 27).den := by decide

end Extended

end MetricLedger
