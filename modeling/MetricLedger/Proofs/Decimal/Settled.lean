import MetricLedger.Proofs.Decimal.Canonical

/-!
# Canonical texts are settled

Whatever decimal a canonical text was written for, the text is read as a decimal again, and is the
canonical text of what is read. So what was written once does not change when it is written again.
-/

namespace MetricLedger

open Text

theorem roundDiv_mul_right {n d : Nat} (hd : 0 < d) : roundDiv (n * d) d = n := by
  rw [roundDiv, Nat.mul_mod_left, Nat.mul_div_cancel _ hd, if_neg (by omega)]

theorem length_numeral_mul_pow {m : Nat} (h : m ≠ 0) (zeros : Nat) :
    (numeral (m * 10 ^ zeros)).length = (numeral m).length + zeros := by
  have hpos := length_numeral_pos m
  have hlow : 10 ^ ((numeral m).length - 1) ≤ m := by
    by_cases hone : (numeral m).length = 1
    · rw [hone, Nat.sub_self, Nat.pow_zero]
      omega
    · exact pow_le_of_lt_length_numeral (by omega) (by omega)
  refine Nat.le_antisymm ?_ (Nat.le_of_not_lt fun hlt => ?_)
  · rw [length_numeral_le_iff (by omega), Nat.pow_add]
    exact Nat.mul_lt_mul_of_pos_right ((length_numeral_le_iff hpos).1 le_rfl)
      (Nat.pow_pos (by decide))
  · -- one digit less would mean a number below the power of ten of its first digit
    have hshort : (numeral (m * 10 ^ zeros)).length ≤ (numeral m).length - 1 + zeros := by omega
    have hpos' := length_numeral_pos (m * 10 ^ zeros)
    rw [length_numeral_le_iff (by omega), Nat.pow_add] at hshort
    have := Nat.mul_le_mul_right (10 ^ zeros) hlow
    omega

namespace Decimal

structure IsCanonical (m : Nat) (e : Int) : Prop where
  reduced : IsReduced m e
  exponent : workingExponent ≤ e
  power : m ≠ 0 → leadingPower m e ≤ workingPower

theorem isCanonical_zero : IsCanonical 0 0 :=
  ⟨⟨by decide, .inr ⟨rfl, rfl⟩⟩, by decide, fun h => absurd rfl h⟩

theorem leadingPower_mul_pow {m : Nat} (h : m ≠ 0) (e : Int) (zeros : Nat) :
    leadingPower (m * 10 ^ zeros) e = leadingPower m (e + zeros) := by
  unfold leadingPower
  rw [length_numeral_mul_pow h]
  omega

theorem dropDigits_le_pow {c count : Nat} (h : (numeral c).length ≤ precision + count) :
    dropDigits c count ≤ 10 ^ precision := by
  have hpos : 0 < precision + count := by
    unfold precision
    omega
  unfold dropDigits
  split
  · exact Nat.zero_le _
  · exact roundDiv_le_pow ((length_numeral_le_iff hpos).1 h)

theorem dropDigits_mul_pow {m zeros count : Nat} (hm : m ≠ 0) (h : count ≤ zeros) :
    dropDigits (m * 10 ^ zeros) count = m * 10 ^ (zeros - count) := by
  have hsplit : m * 10 ^ zeros = m * 10 ^ (zeros - count) * 10 ^ count := by
    rw [Nat.mul_assoc, ← Nat.pow_add]
    congr 2
    omega
  rw [dropDigits, if_neg, hsplit, roundDiv_mul_right (Nat.pow_pos (by decide))]
  rw [length_numeral_mul_pow hm]
  omega

theorem canonical?_finite {negative : Bool} {c : Nat} {e : Int} {d : Decimal}
    (h : canonical? (.finite negative c e) = some d) :
    ∃ m e', d = .finite negative m e' ∧ IsCanonical m e' := by
  simp only [canonical?] at h
  by_cases hc : c = 0
  · subst hc
    simp only [ite_true, dropDigits_zero, reduced] at h
    exact ⟨0, 0, (Option.some.inj h).symm, isCanonical_zero⟩
  · rw [if_neg hc] at h
    have hround : dropDigits c (excess c e) ≤ 10 ^ precision :=
      dropDigits_le_pow (by unfold excess; omega)
    have hexponent : workingExponent ≤ e + excess c e := by
      unfold excess
      omega
    generalize excess c e = count at h hround hexponent
    generalize dropDigits c count = n at h hround
    split at h
    · cases h
    · rename_i hpower
      by_cases hn : n = 0
      · subst hn
        simp only [reduced] at h
        exact ⟨0, 0, (Option.some.inj h).symm, isCanonical_zero⟩
      · obtain ⟨m, zeros, rfl, hm⟩ := exists_mul_pow hn
        have hm0 : m ≠ 0 := fun h => hm (by rw [h])
        rw [reduced_mul_pow negative hm] at h
        refine ⟨m, _, (Option.some.inj h).symm, ⟨?_, .inl hm⟩, by omega, fun _ => ?_⟩
        · -- the only coefficient with more digits is the power of ten that rounding up ends at
          have hle : m * 1 ≤ m * 10 ^ zeros := Nat.mul_le_mul_left m (Nat.pow_pos (by decide))
          unfold precision at *
          omega
        · rw [← leadingPower_mul_pow hm0]
          exact Int.not_lt.1 fun hlt => hpower ⟨hn, hlt⟩

/-- The decimal that the plain text of a canonical one is read as has that one for its canonical
form. -/
theorem canonical?_shifted {m : Nat} {e : Int} (h : IsCanonical m e) (negative : Bool) :
    canonical? (.finite negative (m * 10 ^ e.toNat) (min e 0)) = some (.finite negative m e) := by
  obtain ⟨⟨hm, hreduced⟩, he, hpower⟩ := h
  rcases hreduced with hmod | ⟨rfl, rfl⟩
  · have hm0 : m ≠ 0 := fun h => hmod (by rw [h])
    have hpos : m * 10 ^ e.toNat ≠ 0 := Nat.mul_ne_zero hm0 (Nat.pow_pos (by decide)).ne'
    have hlen := length_numeral_le_precision hm
    have hexcess : excess (m * 10 ^ e.toNat) (min e 0) ≤ e.toNat := by
      unfold excess workingExponent at *
      rw [length_numeral_mul_pow hm0]
      omega
    simp only [canonical?, if_neg hpos]
    generalize excess (m * 10 ^ e.toNat) (min e 0) = count at hexcess
    have hshift : min e 0 + count + (e.toNat - count : Nat) = e := by omega
    rw [dropDigits_mul_pow hm0 hexcess, leadingPower_mul_pow hm0, reduced_mul_pow negative hmod,
      hshift, if_neg fun hbig => Int.not_lt.2 (hpower hm0) hbig.2]
  · cases negative <;> rfl

theorem bounded?_shifted {m : Nat} {e : Int} (h : IsCanonical m e) (negative : Bool) :
    bounded? negative (m * 10 ^ e.toNat) (min e 0) =
      some (.finite negative (m * 10 ^ e.toNat) (min e 0)) := by
  obtain ⟨⟨-, hreduced⟩, he, hpower⟩ := h
  refine if_pos ⟨?_, ?_⟩
  · rcases hreduced with hmod | ⟨rfl, rfl⟩
    · have hm0 : m ≠ 0 := fun h => hmod (by rw [h])
      have := hpower hm0
      rw [leadingPower_mul_pow hm0, show min e 0 + (e.toNat : Int) = e by omega]
      unfold workingPower greatestPower at *
      omega
    · decide
  · unfold workingExponent leastExponent at *
    omega

theorem ofChars?_plainChars {m : Nat} {e : Int} (h : IsCanonical m e) (negative : Bool) :
    ofChars? (plainChars (.finite negative m e)) =
      some (.finite negative (m * 10 ^ e.toNat) (min e 0)) := by
  obtain ⟨whole, fraction, htext, hne, hw, hf, hlen, hvalue⟩ := positional_eq_fixedPoint m e
  have hread := ofChars?_fixedPoint negative hne hw hf
  rw [hvalue, show (-(fraction.length : Int)) = min e 0 by omega, bounded?_shifted h] at hread
  rw [plainChars, htext]
  exact hread

theorem ofChars?_infinite (negative : Bool) :
    ofChars? (plainChars (.infinite negative)) = some (.infinite negative) := by
  cases negative <;> decide

theorem ofChars?_nan (negative : Bool) (payload : Nat) :
    ofChars? (plainChars (.nan negative false payload)) = some (.nan negative false payload) := by
  -- the payload is written in digits, or not at all if it is zero
  have hpayload : ∃ digits, nanBody false payload = 'N' :: 'a' :: 'N' :: digits ∧ Digits digits ∧
      payload? digits = some payload := by
    unfold nanBody
    by_cases h : payload = 0
    · exact ⟨[], by rw [if_pos h]; rfl, List.forall_mem_nil _, by rw [h]; rfl⟩
    · have hne := List.length_pos_iff.1 (length_numeral_pos payload)
      refine ⟨numeral payload, by rw [if_neg h]; rfl, digits_numeral payload, ?_⟩
      rw [payload?, if_neg hne, digits?, if_pos ⟨hne, List.all_eq_true.2 (digits_numeral payload)⟩,
        asciiValue_numeral]
  obtain ⟨digits, hbody, hdigits, hread⟩ := hpayload
  have hplain : ∀ c ∈ 'N' :: 'a' :: 'N' :: digits, IsPlain c := by
    intro c hc
    simp only [List.mem_cons] at hc
    rcases hc with rfl | rfl | rfl | hc
    · exact ⟨by decide, by decide, by decide⟩
    · exact ⟨by decide, by decide, by decide⟩
    · exact ⟨by decide, by decide, by decide⟩
    · exact isPlain_of_isDigit (hdigits c hc)
  have hlower : digits.map Char.toLower = digits :=
    (List.map_congr_left fun c hc => toLower_of_isDigit (hdigits c hc)).trans (List.map_id digits)
  change ofChars? (withSign negative (nanBody false payload)) = _
  rw [hbody, ofChars?_eq_signed? (isPlain_of_mem_withSign hplain),
    signed?_withSign negative (by decide) (by decide)]
  unfold unsigned?
  rw [List.map_cons, List.map_cons, List.map_cons, hlower]
  change (payload? digits).map (Decimal.nan negative false) = _
  rw [hread]
  rfl

/-- **A canonical text is settled.** It is read as a decimal, and is the canonical text of that. -/
theorem exists_settled {d : Decimal} {text : String} (h : d.canonicalText? = some text) :
    ∃ settled, ofText? text = some settled ∧ settled.canonicalText? = some text := by
  obtain ⟨canonical, hcanonical, rfl⟩ := Option.map_eq_some_iff.1 h
  -- what is read has the same canonical form, so it is written alike
  have hsettled : ∃ settled, ofChars? canonical.plainChars = some settled ∧
      settled.canonical? = some canonical := by
    cases d with
    | finite negative c e =>
      obtain ⟨m, e', rfl, hm⟩ := canonical?_finite hcanonical
      exact ⟨_, ofChars?_plainChars hm negative, canonical?_shifted hm negative⟩
    | infinite negative =>
      cases hcanonical
      exact ⟨_, ofChars?_infinite negative, rfl⟩
    | nan negative signaling payload =>
      cases signaling with
      | true => cases hcanonical
      | false =>
        cases hcanonical
        refine ⟨_, ofChars?_nan negative _, ?_⟩
        rw [canonical?, Nat.mod_mod]
        rfl
  obtain ⟨settled, hread, hagain⟩ := hsettled
  refine ⟨settled, ?_, ?_⟩
  · rw [ofText?, String.toList_ofList]
    exact hread
  · rw [canonicalText?, hagain]
    rfl

end Decimal

end MetricLedger
