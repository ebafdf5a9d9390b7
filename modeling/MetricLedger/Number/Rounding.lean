/-!
# Rounding a quotient

To the nearest integer; a quotient halfway between two integers goes to the even one. A quotient is
rounded to a number of binary digits by rounding it in units of a power of two.
-/

-- a power of numbers is the same term whether or not a module also imports an algebra of powers
attribute [instance (high), default_instance (high + 1)] instPowNat

namespace MetricLedger

def roundDiv (n d : Nat) : Nat :=
  if 2 * (n % d) > d ∨ (2 * (n % d) = d ∧ n / d % 2 = 1) then n / d + 1 else n / d

/-- The power of two at which a positive quotient has a mantissa of `bits + 1` digits. -/
def powerFor (bits num den : Nat) : Int :=
  let e : Int := num.log2 - den.log2 - bits
  let small := num * 2 ^ (-e).toNat < den * 2 ^ bits * 2 ^ e.toNat
  if small then e - 1 else e

/-- A quotient in units of `2 ^ e`. -/
def roundAt (e : Int) (num den : Nat) : Nat :=
  roundDiv (num * 2 ^ (-e).toNat) (den * 2 ^ e.toNat)

section
variable {n d : Nat}

theorem div_le_roundDiv : n / d ≤ roundDiv n d := by
  unfold roundDiv
  split <;> omega

theorem roundDiv_le_div_succ : roundDiv n d ≤ n / d + 1 := by
  unfold roundDiv
  split <;> omega

theorem roundDiv_one : roundDiv n 1 = n := by
  simp [roundDiv, Nat.mod_one]

/-- The result is at most half a unit away. -/
theorem two_mul_roundDiv_sub_le (hd : 0 < d) :
    2 * (roundDiv n d * d) ≤ 2 * n + d ∧ 2 * n ≤ 2 * (roundDiv n d * d) + d := by
  have h := Nat.div_add_mod n d
  have hr := Nat.mod_lt n hd
  have hc : n / d * d = d * (n / d) := Nat.mul_comm _ _
  unfold roundDiv
  split
  · rw [Nat.add_mul]
    omega
  · omega

end

end MetricLedger
