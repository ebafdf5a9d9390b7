import Mathlib.Algebra.Order.Field.Power
import Mathlib.Algebra.Order.Field.Rat
import Mathlib.Data.Nat.Log
import Mathlib.Tactic.Linarith
import Mathlib.Tactic.NormNum
import Mathlib.Tactic.Positivity
import Mathlib.Tactic.Ring
import MetricLedger.Proofs.Decimal.Canonical

/-!
# Rounded values

The value of a rate as a rational number, and what becomes of it when the rate is written: it is
rounded to 28 digits, a half going to the even neighbour. So it stays what it is if it has no more
digits than that, and only then.
-/

namespace MetricLedger

namespace Decimal

def value? : Decimal → Option ℚ
  | .finite negative c e => some ((if negative then -1 else 1) * (c * 10 ^ e))
  | .infinite _ | .nan .. => none

/-- The value can be written with the digits that rounding keeps. -/
def IsShort (q : ℚ) : Prop := ∃ (m : ℕ) (k : ℤ), m < 10 ^ precision ∧ q = m * 10 ^ k

/-- The multiple of the unit in the last digit that is nearest to the value, the even one of two. -/
def RoundsTo (q r : ℚ) : Prop :=
  q = 0 ∧ r = 0 ∨ ∃ (k : ℤ) (n : ℕ), 10 ^ 27 * 10 ^ k ≤ q ∧ q < 10 ^ precision * 10 ^ k ∧
    r = n * 10 ^ k ∧ 2 * |q - r| ≤ 10 ^ k ∧ (2 * |q - r| = 10 ^ k → Even n)

section
variable {q r r' : ℚ} {k k' : ℤ} {m n : ℕ}

theorem pow_pos_ten (k : ℤ) : (0 : ℚ) < 10 ^ k := zpow_pos (by norm_num) k

theorem unit_le_unit (h : 10 ^ 27 * 10 ^ k ≤ q) (h' : q < 10 ^ precision * 10 ^ k') : k ≤ k' := by
  by_contra hk
  have hpow : (10 : ℚ) ^ (k' + 1) ≤ 10 ^ k := zpow_le_zpow_right₀ (by norm_num) (by omega)
  rw [zpow_add_one₀ (by norm_num)] at hpow
  unfold precision at h'
  linarith

theorem multiple_le {u : ℚ} (hu : 0 < u) (hm : 2 * |q - m * u| ≤ u) (hn : 2 * |q - n * u| ≤ u)
    (hm' : 2 * |q - m * u| = u → Even m) (hn' : 2 * |q - n * u| = u → Even n) : n ≤ m := by
  by_contra hlt
  have hlow := abs_le.1 (show |q - m * u| ≤ u / 2 by linarith)
  have hhigh := abs_le.1 (show |q - n * u| ≤ u / 2 by linarith)
  have hstep : ((m : ℚ) + 1) * u ≤ n * u := by
    refine mul_le_mul_of_nonneg_right ?_ hu.le
    exact_mod_cast Nat.lt_of_not_le hlt
  have heq : ((m : ℚ) + 1) * u = n * u := by linarith
  -- the two are neighbours and the value is halfway, so both would be even
  have hn1 : n = m + 1 := by
    have := mul_right_cancel₀ hu.ne' heq
    exact_mod_cast this.symm
  have hmq : q - m * u = u / 2 := by linarith
  have hnq : q - n * u = -(u / 2) := by linarith
  have hmeven := hm' (by rw [hmq, abs_of_pos (by linarith)]; ring)
  have hneven := hn' (by rw [hnq, abs_neg, abs_of_pos (by linarith)]; ring)
  rw [hn1, Nat.even_add_one] at hneven
  exact hneven hmeven

theorem RoundsTo.unique (h : RoundsTo q r) (h' : RoundsTo q r') : r = r' := by
  have hpos : ∀ k : ℤ, (0 : ℚ) < 10 ^ 27 * 10 ^ k := fun k => by
    have := pow_pos_ten k
    positivity
  rcases h with ⟨hq, rfl⟩ | ⟨k, n, hlow, hhigh, rfl, hn, hn'⟩
  · rcases h' with ⟨-, rfl⟩ | ⟨k, n, hlow, -⟩
    · rfl
    · have := hpos k
      linarith
  · rcases h' with ⟨hq, rfl⟩ | ⟨k', n', hlow', hhigh', rfl, hm, hm'⟩
    · have := hpos k
      linarith
    · obtain rfl : k = k' := le_antisymm (unit_le_unit hlow hhigh') (unit_le_unit hlow' hhigh)
      have hu := pow_pos_ten k
      rw [le_antisymm (multiple_le hu hm hn hm' hn') (multiple_le hu hn hm hn' hm')]

theorem roundsTo_self (h : IsShort q) : RoundsTo q q := by
  obtain ⟨m, k, hm, rfl⟩ := h
  by_cases h0 : m = 0
  · exact .inl ⟨by rw [h0]; simp, by rw [h0]; simp⟩
  · have hlog : Nat.log 10 m ≤ 27 := by
      have := Nat.log_lt_of_lt_pow h0 hm
      unfold precision at this
      omega
    -- fill up with zeros to 28 digits
    obtain ⟨j, hj⟩ : ∃ j, Nat.log 10 m + j = 27 := ⟨27 - Nat.log 10 m, by omega⟩
    have hlow : 10 ^ 27 ≤ m * 10 ^ j := by
      rw [← hj, Nat.pow_add]
      exact Nat.mul_le_mul_right _ (Nat.pow_log_le_self 10 h0)
    have hhigh : m * 10 ^ j < 10 ^ precision := by
      have hlt := Nat.mul_lt_mul_of_pos_right (Nat.lt_pow_succ_log_self (by decide : 1 < 10) m)
        (Nat.pow_pos (by decide) : 0 < 10 ^ j)
      rwa [← Nat.pow_add, show (Nat.log 10 m).succ + j = precision by unfold precision; omega]
        at hlt
    have hsplit : (10 : ℚ) ^ k = 10 ^ j * 10 ^ (k - j) := by
      rw [← zpow_natCast, ← zpow_add₀ (by norm_num), add_sub_cancel]
    have hu := pow_pos_ten (k - j)
    have heq : (m : ℚ) * 10 ^ k = (m * 10 ^ j : ℕ) * 10 ^ (k - j) := by
      rw [hsplit]
      push_cast
      ring
    refine .inr ⟨k - j, m * 10 ^ j, ?_, ?_, heq, ?_, ?_⟩
    · rw [heq]
      exact mul_le_mul_of_nonneg_right (by exact_mod_cast hlow) hu.le
    · rw [heq]
      exact mul_lt_mul_of_pos_right (by exact_mod_cast hhigh) hu
    · rw [sub_self, abs_zero, mul_zero]
      exact hu.le
    · rw [sub_self, abs_zero, mul_zero]
      exact fun h => absurd h hu.ne

theorem RoundsTo.eq_iff_isShort (h : RoundsTo q r) : r = q ↔ IsShort q := by
  refine ⟨fun heq => ?_, fun hshort => h.unique (roundsTo_self hshort)⟩
  rcases h with ⟨rfl, -⟩ | ⟨k, n, -, hhigh, hr, -⟩
  · exact ⟨0, 0, by norm_num, by norm_num⟩
  · rw [heq] at hr
    refine ⟨n, k, ?_, hr⟩
    rw [hr] at hhigh
    have := lt_of_mul_lt_mul_right hhigh (pow_pos_ten k).le
    exact_mod_cast this

theorem even_roundDiv {c d : ℕ} (hd : 0 < d)
    (h : 2 * (roundDiv c d * d) = 2 * c + d ∨ 2 * c = 2 * (roundDiv c d * d) + d) :
    Even (roundDiv c d) := by
  have hdiv := Nat.div_add_mod c d
  have hmod := Nat.mod_lt c hd
  rw [Nat.mul_comm d] at hdiv
  rw [Nat.even_iff]
  unfold roundDiv at *
  split at h
  · rename_i hup
    rw [if_pos hup]
    rw [Nat.add_mul] at h
    omega
  · rename_i hdown
    rw [if_neg hdown]
    omega

theorem roundsTo_roundDiv (c : ℕ) (e : ℤ) :
    RoundsTo (c * 10 ^ e) (roundDiv c (10 ^ Rate.surplus c) * 10 ^ (Rate.surplus c + e)) := by
  by_cases hs : Rate.surplus c = 0
  · have hc := Rate.lt_pow_surplus c
    rw [hs, Nat.add_zero] at hc
    rw [hs, Nat.pow_zero, roundDiv_one, Nat.cast_zero, zero_add]
    exact roundsTo_self ⟨c, e, hc, rfl⟩
  · have hlow := Rate.pow_le_of_surplus hs
    have hhigh := Rate.lt_pow_surplus c
    generalize Rate.surplus c = s at *
    have hpos : 0 < 10 ^ s := Nat.pow_pos (by decide)
    obtain ⟨hup, hdown⟩ := two_mul_roundDiv_sub_le (n := c) hpos
    have heven := even_roundDiv (c := c) hpos
    generalize roundDiv c (10 ^ s) = n at *
    have hsplit : (10 : ℚ) ^ (s + e) = 10 ^ s * 10 ^ e := by
      rw [zpow_add₀ (by norm_num), zpow_natCast]
    have hu := pow_pos_ten e
    -- all of it is counted in units of the last place of the coefficient
    have hdiff : |(c : ℚ) * 10 ^ e - n * 10 ^ (s + e)| = |(c : ℚ) - n * 10 ^ s| * 10 ^ e := by
      rw [hsplit, ← mul_assoc, ← sub_mul, abs_mul, abs_of_pos hu]
    have hup' : 2 * ((n : ℚ) * 10 ^ s) ≤ 2 * c + 10 ^ s := by exact_mod_cast hup
    have hdown' : 2 * (c : ℚ) ≤ 2 * (n * 10 ^ s) + 10 ^ s := by exact_mod_cast hdown
    have hhalf : 2 * |(c : ℚ) - n * 10 ^ s| ≤ 10 ^ s := by
      have := abs_le.2 (⟨by linarith, by linarith⟩ :
        -((10 : ℚ) ^ s / 2) ≤ c - n * 10 ^ s ∧ (c : ℚ) - n * 10 ^ s ≤ 10 ^ s / 2)
      linarith
    refine .inr ⟨s + e, n, ?_, ?_, rfl, ?_, ?_⟩
    · rw [hsplit, ← mul_assoc, ← pow_add]
      exact mul_le_mul_of_nonneg_right (by exact_mod_cast hlow) hu.le
    · rw [hsplit, ← mul_assoc, ← pow_add]
      exact mul_lt_mul_of_pos_right (by exact_mod_cast hhigh) hu
    · rw [hdiff, hsplit, ← mul_assoc]
      exact mul_le_mul_of_nonneg_right hhalf hu.le
    · rw [hdiff, hsplit, ← mul_assoc]
      intro htie
      have htie := mul_right_cancel₀ hu.ne' htie
      refine heven ?_
      rcases abs_choice ((c : ℚ) - n * 10 ^ s) with habs | habs
      · right
        rw [habs] at htie
        have : 2 * (c : ℚ) = 2 * (n * 10 ^ s) + 10 ^ s := by linarith
        exact_mod_cast this
      · left
        rw [habs] at htie
        have : 2 * ((n : ℚ) * 10 ^ s) = 2 * c + 10 ^ s := by linarith
        exact_mod_cast this

theorem value?_finite (c : ℕ) (e : ℤ) : (finite false c e).value? = some ((c : ℚ) * 10 ^ e) := by
  simp [value?]

end

end Decimal

namespace Rate

open Decimal (IsShort RoundsTo)

theorem pow_toNat {e : ℤ} (h : 0 ≤ e) : (10 : ℚ) ^ e.toNat = 10 ^ e := by
  rw [← zpow_natCast, Int.toNat_of_nonneg h]

theorem exists_value {text : String} {d : Decimal} (h : ofText text = .ok d) :
    ∃ q, d.value? = some q := by
  obtain ⟨whole, fraction, -, -, -, -, -, -, rfl⟩ := ofText_eq_ok_iff.1 h
  exact ⟨_, rfl⟩

/-- What is read back of a rate is the rate rounded to 28 digits. -/
theorem roundsTo_of_canonicalText {text canonical : String} {d settled : Decimal}
    (h : ofText text = .ok d) (hcanonical : d.canonicalText? = some canonical)
    (hsettled : Decimal.ofText? canonical = some settled) :
    ∃ q r, d.value? = some q ∧ settled.value? = some r ∧ RoundsTo q r := by
  obtain ⟨whole, fraction, -, -, -, -, hlen, hbig, rfl⟩ := ofText_eq_ok_iff.1 h
  generalize Text.asciiValue (whole ++ fraction) = c at *
  generalize fraction.length = k at *
  obtain ⟨m, e, hform, hreduced, he, hunits⟩ := canonical?_eq_some hlen hbig
  obtain ⟨plain, hplain, rfl, -⟩ := ofText_plain hreduced he (hunits ▸ rounded_le_greatest hbig)
  rw [Decimal.canonicalText?, hform] at hcanonical
  cases hcanonical
  cases hsettled.symm.trans (decimal_ofText? hplain)
  refine ⟨_, _, Decimal.value?_finite c _, Decimal.value?_finite _ _, ?_⟩
  have hvalue : ((m * 10 ^ e.toNat : ℕ) : ℚ) * 10 ^ min e 0 =
      roundDiv c (10 ^ surplus c) * 10 ^ (surplus c + -(k : ℤ)) := by
    have hcast : (m : ℚ) * 10 ^ (e + places).toNat =
        roundDiv c (10 ^ surplus c) * 10 ^ (surplus c + (places - k)) := by exact_mod_cast hunits
    rw [pow_toNat (by omega), zpow_add₀ (by norm_num)] at hcast
    have hpow : (10 : ℚ) ^ (surplus c + (places - k)) =
        10 ^ (surplus c + -(k : ℤ)) * 10 ^ (places : ℤ) := by
      rw [← zpow_natCast, ← zpow_add₀ (by norm_num)]
      congr 1
      omega
    rw [hpow, ← mul_assoc, ← mul_assoc] at hcast
    have hwhole : (10 : ℚ) ^ e.toNat * 10 ^ min e 0 = 10 ^ e := by
      rw [← zpow_natCast, ← zpow_add₀ (by norm_num)]
      congr 1
      omega
    push_cast
    rw [mul_assoc, hwhole]
    exact mul_right_cancel₀ (Decimal.pow_pos_ten places).ne' hcast
  rw [hvalue]
  exact Decimal.roundsTo_roundDiv c _

end Rate

end MetricLedger
