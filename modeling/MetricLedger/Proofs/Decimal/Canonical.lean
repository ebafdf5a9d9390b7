import MetricLedger.Number.Decimal.Canonical
import MetricLedger.Proofs.Decimal.FixedPoint

/-!
# Canonical texts of rates

A submitted rate always has a canonical text, also if it has more digits than rounding keeps. The
text is a rate again, which both readers of decimals read alike, and it is its own canonical text.
-/

namespace MetricLedger

open Text

/-! ## Zeros at the end -/

namespace Decimal

theorem stripZeros_of_mod_ne {n : Nat} (h : n % 10 ≠ 0) : stripZeros n = (n, 0) := by
  rw [stripZeros, if_neg fun hn => h hn.2]

theorem stripZeros_mul_pow {m : Nat} (h : m % 10 ≠ 0) (zeros : Nat) :
    stripZeros (m * 10 ^ zeros) = (m, zeros) := by
  induction zeros with
  | zero => rw [Nat.pow_zero, Nat.mul_one, stripZeros_of_mod_ne h]
  | succ zeros ih =>
    have hpos : 0 < m * 10 ^ zeros := Nat.mul_pos (by omega) (Nat.pow_pos (by decide))
    have hstep : m * 10 ^ (zeros + 1) = m * 10 ^ zeros * 10 := by rw [Nat.pow_succ, Nat.mul_assoc]
    rw [hstep, stripZeros, if_pos (by omega), Nat.mul_div_cancel _ (by decide), ih]

theorem exists_mul_pow {n : Nat} (h : n ≠ 0) : ∃ m zeros, n = m * 10 ^ zeros ∧ m % 10 ≠ 0 := by
  induction n using Nat.strongRecOn with
  | ind n ih =>
    by_cases hn : n % 10 = 0
    · obtain ⟨m, zeros, heq, hm⟩ := ih (n / 10) (by omega) (by omega)
      refine ⟨m, zeros + 1, ?_, hm⟩
      rw [Nat.pow_succ, ← Nat.mul_assoc, ← heq]
      omega
    · exact ⟨n, 0, by rw [Nat.pow_zero, Nat.mul_one], hn⟩

/-! ## The canonical form -/

def IsReduced (m : Nat) (e : Int) : Prop :=
  m < 10 ^ precision ∧ (m % 10 ≠ 0 ∨ m = 0 ∧ e = 0)

theorem reduced_mul_pow (negative : Bool) {m : Nat} {e : Int} (h : m % 10 ≠ 0) (zeros : Nat) :
    reduced negative (m * 10 ^ zeros) e = .finite negative m (e + zeros) := by
  have hpos : 0 < m * 10 ^ zeros := Nat.mul_pos (by omega) (Nat.pow_pos (by decide))
  rw [reduced, if_neg (by omega), stripZeros_mul_pow h]

theorem length_numeral_le_precision {c : Nat} (h : c < 10 ^ precision) :
    (numeral c).length ≤ precision := (length_numeral_le_iff (by decide)).2 h

theorem dropDigits_zero (n : Nat) : dropDigits n 0 = n := by
  rw [dropDigits, if_neg (Nat.not_lt_zero _), Nat.pow_zero, roundDiv_one]

theorem canonical?_of_lt {c : Nat} {e : Int} (hc : c < 10 ^ precision)
    (he : workingExponent ≤ e) (he' : e ≤ workingPower - precision) :
    canonical? (.finite false c e) = some (reduced false c e) := by
  have hlen := length_numeral_le_precision hc
  have hexcess : excess c e = 0 := by
    unfold excess
    omega
  have hsmall : ¬(c ≠ 0 ∧ workingPower < leadingPower c e) := fun h => by
    have := h.2
    unfold leadingPower at this
    omega
  simp only [canonical?, hexcess, ite_self, dropDigits_zero, Int.natCast_zero, Int.add_zero,
    if_neg hsmall]

theorem roundDiv_le_pow {c n k : Nat} (h : c < 10 ^ (k + n)) : roundDiv c (10 ^ n) ≤ 10 ^ k := by
  have hdiv : c / 10 ^ n < 10 ^ k := by
    rw [Nat.div_lt_iff_lt_mul (Nat.pow_pos (by decide)), ← Nat.pow_add]
    exact h
  have := roundDiv_le_div_succ (n := c) (d := 10 ^ n)
  omega

end Decimal

/-! ## Rates -/

namespace Rate

open Decimal (precision IsReduced)

/-- The digits of a coefficient that rounding takes off. -/
def surplus (c : Nat) : Nat := (numeral c).length - precision

theorem lt_pow_surplus (c : Nat) : c < 10 ^ (precision + surplus c) := by
  have hpos : 0 < precision + surplus c := by
    unfold surplus precision
    omega
  rw [← length_numeral_le_iff hpos]
  unfold surplus
  omega

theorem pow_le_of_surplus {c : Nat} (h : surplus c ≠ 0) : 10 ^ (27 + surplus c) ≤ c := by
  unfold surplus precision at *
  exact pow_le_of_lt_length_numeral (by omega) (by omega)

/-- A rate, counted in units of its last place and rounded, is still within bounds: rounding up
takes it to a power of ten at most, and the bound itself is rounded down. -/
theorem rounded_le_greatest {c j : Nat} (hc : c * 10 ^ j ≤ greatest) :
    roundDiv c (10 ^ surplus c) * 10 ^ (surplus c + j) ≤ greatest := by
  by_cases hn : surplus c = 0
  · rw [hn, Nat.pow_zero, roundDiv_one, Nat.zero_add]
    exact hc
  · have hlow : 10 ^ (27 + surplus c + j) ≤ c * 10 ^ j := by
      rw [Nat.pow_add 10 (27 + surplus c)]
      exact Nat.mul_le_mul_right _ (pow_le_of_surplus hn)
    have hhigh : c * 10 ^ j < 10 ^ (precision + surplus c + j) := by
      rw [Nat.pow_add 10 (precision + surplus c)]
      exact Nat.mul_lt_mul_of_pos_right (lt_pow_surplus c) (Nat.pow_pos (by decide))
    have hround : 2 * (roundDiv c (10 ^ surplus c) * 10 ^ (surplus c + j)) ≤
        2 * (c * 10 ^ j) + 10 ^ (surplus c + j) := by
      have h := (two_mul_roundDiv_sub_le (n := c) (d := 10 ^ surplus c) (Nat.pow_pos (by decide))).1
      have h := Nat.mul_le_mul_right (10 ^ j) h
      rw [Nat.add_mul, ← Nat.pow_add] at h
      calc 2 * (roundDiv c (10 ^ surplus c) * 10 ^ (surplus c + j))
          = 2 * (roundDiv c (10 ^ surplus c) * 10 ^ surplus c) * 10 ^ j := by
            rw [Nat.pow_add, Nat.mul_assoc, Nat.mul_assoc]
        _ ≤ 2 * c * 10 ^ j + 10 ^ (surplus c + j) := h
        _ = 2 * (c * 10 ^ j) + 10 ^ (surplus c + j) := by rw [Nat.mul_assoc]
    rw [show 27 + surplus c + j = 27 + (surplus c + j) by omega] at hlow
    rw [show precision + surplus c + j = precision + (surplus c + j) by omega] at hhigh
    generalize surplus c + j = s at *
    -- the bound has 39 digits: with eleven taken off it is itself rounded down, and with fewer a
    -- power of ten is still below it
    have hs : s ≤ 11 := by
      by_contra hs
      have : 10 ^ 39 ≤ 10 ^ (27 + s) := Nat.pow_le_pow_right (by decide) (by omega)
      unfold greatest at hc
      omega
    by_cases hs' : s = 11
    · subst hs'
      unfold greatest at *
      omega
    · have h38 : 10 ^ (precision + s) ≤ 10 ^ 38 :=
        Nat.pow_le_pow_right (by decide) (by unfold precision; omega)
      have h10 : 10 ^ s ≤ 10 ^ 10 := Nat.pow_le_pow_right (by decide) (by omega)
      unfold greatest at *
      omega

theorem canonical?_eq_some {c k : Nat} (hk : k ≤ places) (hc : c * 10 ^ (places - k) ≤ greatest) :
    ∃ m e, (Decimal.finite false c (-(k : Int))).canonical? = some (.finite false m e) ∧
      IsReduced m e ∧ -(places : Int) ≤ e ∧
      m * 10 ^ (e + places).toNat =
        roundDiv c (10 ^ surplus c) * 10 ^ (surplus c + (places - k)) := by
  by_cases h0 : c = 0
  · subst h0
    refine ⟨0, 0, ?_, ⟨by decide, .inr ⟨rfl, rfl⟩⟩, by decide, ?_⟩
    · rw [Decimal.canonical?_of_lt (by decide)]
      · rfl
      · unfold Decimal.workingExponent places at *
        omega
      · unfold Decimal.workingPower precision
        omega
    · have : surplus 0 = 0 := by decide
      rw [this, Nat.pow_zero, roundDiv_one, Nat.zero_mul, Nat.zero_mul]
  · have hlen : (numeral c).length ≤ 39 := by
      rw [length_numeral_le_iff (by decide)]
      have : c * 1 ≤ c * 10 ^ (places - k) :=
        Nat.mul_le_mul_left c (Nat.pow_pos (by decide))
      unfold greatest at hc
      omega
    -- so short a coefficient never meets the bounds on the exponent
    have hexcess : Decimal.excess c (-(k : Int)) = surplus c := by
      unfold Decimal.excess Decimal.workingExponent surplus places at *
      omega
    have hdrop : Decimal.dropDigits c (surplus c) = roundDiv c (10 ^ surplus c) := by
      have hpos := length_numeral_pos c
      rw [Decimal.dropDigits, if_neg]
      unfold surplus precision
      omega
    have hle : roundDiv c (10 ^ surplus c) ≤ 10 ^ precision :=
      Decimal.roundDiv_le_pow (lt_pow_surplus c)
    have hne : roundDiv c (10 ^ surplus c) ≠ 0 := by
      by_cases hn : surplus c = 0
      · rwa [hn, Nat.pow_zero, roundDiv_one]
      · have hpow : 10 ^ surplus c ≤ c :=
          (Nat.pow_le_pow_right (by decide) (by omega)).trans (pow_le_of_surplus hn)
        have hdiv : 0 < c / 10 ^ surplus c := Nat.div_pos hpow (Nat.pow_pos (by decide))
        have := div_le_roundDiv (n := c) (d := 10 ^ surplus c)
        omega
    have hsmall : ¬(roundDiv c (10 ^ surplus c) ≠ 0 ∧ Decimal.workingPower <
        Decimal.leadingPower (roundDiv c (10 ^ surplus c)) (-(k : Int) + surplus c)) := fun h => by
      have hlen' : (numeral (roundDiv c (10 ^ surplus c))).length ≤ 29 := by
        rw [length_numeral_le_iff (by decide)]
        unfold precision at hle
        omega
      have hsurplus : surplus c ≤ 39 := by
        unfold surplus
        omega
      have := h.2
      unfold Decimal.leadingPower Decimal.workingPower at this
      omega
    obtain ⟨m, zeros, hm, hmod⟩ := Decimal.exists_mul_pow hne
    refine ⟨m, -(k : Int) + surplus c + zeros, ?_, ⟨?_, .inl hmod⟩, by omega, ?_⟩
    · simp only [Decimal.canonical?, if_neg h0, hexcess, hdrop, if_neg hsmall]
      rw [hm, Decimal.reduced_mul_pow false hmod]
    · have hpos : 0 < 10 ^ zeros := Nat.pow_pos (by decide)
      have : m * 1 ≤ m * 10 ^ zeros := Nat.mul_le_mul_left m hpos
      unfold precision at *
      omega
    · rw [hm, Nat.mul_assoc, ← Nat.pow_add]
      congr 2
      omega

theorem ofText_eq_ok_iff {text : String} {d : Decimal} :
    ofText text = .ok d ↔ ∃ whole fraction, text.toList = fixedPoint whole fraction ∧
      whole ≠ [] ∧ Digits whole ∧ Digits fraction ∧ fraction.length ≤ places ∧
      asciiValue (whole ++ fraction) * 10 ^ (places - fraction.length) ≤ greatest ∧
      d = .finite false (asciiValue (whole ++ fraction)) (-(fraction.length : Int)) := by
  constructor
  · intro h
    cases hsplit : split? text.toList with
    | none =>
      rw [ofText, hsplit] at h
      cases h
    | some parts =>
      obtain ⟨whole, fraction⟩ := parts
      obtain ⟨hne, hw, hf, htext⟩ := split?_eq_some hsplit
      rw [ofText_of_split hw hsplit] at h
      split at h
      · cases h
      · split at h
        · cases h
        · rename_i hlen hbig
          cases h
          exact ⟨whole, fraction, htext, hne, hw, hf, Nat.not_lt.1 hlen, Nat.not_lt.1 hbig, rfl⟩
  · rintro ⟨whole, fraction, htext, hne, hw, hf, hlen, hbig, rfl⟩
    have hsplit : split? text.toList = some (whole, fraction) := by
      rw [htext, split?_fixedPoint hne hw hf]
    rw [ofText_of_split hw hsplit, if_neg (Nat.not_lt.2 hlen), if_neg (Nat.not_lt.2 hbig)]

theorem decimal_ofText? {text : String} {d : Decimal} (h : ofText text = .ok d) :
    Decimal.ofText? text = some d := by
  obtain ⟨whole, fraction, htext, hne, hw, hf, hlen, hbig, rfl⟩ := ofText_eq_ok_iff.1 h
  have hread := Decimal.ofChars?_fixedPoint false hne hw hf
  rw [Decimal.ofText?, htext]
  rw [show Decimal.ofChars? (fixedPoint whole fraction) = _ from hread, Decimal.bounded?, if_pos]
  have hshort : (numeral (asciiValue (whole ++ fraction))).length ≤ 39 := by
    rw [length_numeral_le_iff (by decide)]
    have : asciiValue (whole ++ fraction) * 1 ≤
        asciiValue (whole ++ fraction) * 10 ^ (places - fraction.length) :=
      Nat.mul_le_mul_left _ (Nat.pow_pos (by decide))
    unfold greatest at hbig
    omega
  unfold Decimal.leadingPower Decimal.greatestPower Decimal.leastExponent places at *
  omega

/-- The plain text of a reduced decimal within the bounds of rates is a rate, with the same
canonical form. -/
theorem ofText_plain {m : Nat} {e : Int} (hm : IsReduced m e) (he : -(places : Int) ≤ e)
    (hbig : m * 10 ^ (e + places).toNat ≤ greatest) :
    ∃ d, ofText (String.ofList (Decimal.finite false m e).plainChars) = .ok d ∧
      d = .finite false (m * 10 ^ e.toNat) (min e 0) ∧
      d.canonical? = some (.finite false m e) := by
  obtain ⟨whole, fraction, htext, hne, hw, hf, hlen, hvalue⟩ :=
    Decimal.positional_eq_fixedPoint m e
  have hexp : (-(fraction.length : Int)) = min e 0 := by omega
  have hunits : e.toNat + (places - fraction.length) = (e + places).toNat := by omega
  refine ⟨_, ofText_eq_ok_iff.2 ⟨whole, fraction, ?_, hne, hw, hf, by omega, ?_, rfl⟩, ?_, ?_⟩
  · rw [String.toList_ofList]
    exact htext
  · rw [hvalue, Nat.mul_assoc, ← Nat.pow_add, hunits]
    exact hbig
  · rw [hvalue, hexp]
  · rw [hvalue, hexp]
    have hshort : m * 10 ^ e.toNat < 10 ^ precision := by
      by_cases h : e ≤ 0
      · rw [show e.toNat = 0 by omega, Nat.pow_zero, Nat.mul_one]
        exact hm.1
      · have hle : m * 10 ^ e.toNat * 10 ^ places ≤ greatest := by
          rw [Nat.mul_assoc, ← Nat.pow_add, show e.toNat + places = (e + places).toNat by omega]
          exact hbig
        unfold greatest places at hle
        unfold precision
        omega
    rw [Decimal.canonical?_of_lt hshort]
    · rcases hm.2 with hmod | ⟨rfl, rfl⟩
      · rw [Decimal.reduced_mul_pow false hmod]
        congr 3
        omega
      · rfl
    · unfold Decimal.workingExponent places at *
      omega
    · unfold Decimal.workingPower precision
      omega

/-- **The canonical text of a rate is a rate again**, read alike by both readers, and its own
canonical text. -/
theorem exists_canonicalText {text : String} {d : Decimal} (h : ofText text = .ok d) :
    ∃ canonical settled, d.canonicalText? = some canonical ∧ ofText canonical = .ok settled ∧
      Decimal.ofText? canonical = some settled ∧ settled.canonicalText? = some canonical := by
  obtain ⟨whole, fraction, htext, hne, hw, hf, hlen, hbig, rfl⟩ := ofText_eq_ok_iff.1 h
  obtain ⟨m, e, hcanonical, hreduced, he, hunits⟩ := canonical?_eq_some hlen hbig
  obtain ⟨settled, hsettled, -, hagain⟩ :=
    ofText_plain hreduced he (hunits ▸ rounded_le_greatest hbig)
  refine ⟨_, settled, ?_, hsettled, decimal_ofText? hsettled, ?_⟩
  · rw [Decimal.canonicalText?, hcanonical]
    rfl
  · rw [Decimal.canonicalText?, hagain]
    rfl

end Rate

end MetricLedger
