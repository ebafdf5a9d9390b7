import MetricLedger.Proofs.Decimal.Spelled
import MetricLedger.Proofs.Service.Versions
import MetricLedger.Submission

/-!
# Texts that are accepted as rates

A text is a rate if it is in fixed point with at most eighteen places and the number that it denotes
is within bounds, however many zeros stand in front. No other text is one, and the first of these
conditions that fails is the reason for which it is refused. The digits that are worked out on the
way are always few enough for an integer.
-/

namespace MetricLedger

open Text

theorem Integer.natural?_of_digits {digits : List Char} (hne : digits ≠ []) (h : Digits digits)
    (hlimit : digits.length ≤ digitLimit) : natural? digits = some (asciiValue digits) := by
  have hdigit : ∀ c ∈ digits, isDigit c = true := by
    intro c hc
    rw [isDigit, digitValue?_of_isDigit (h c hc)]
    rfl
  have hvalues : digits.mapM digitValue? = some (digits.map fun c => c.toNat - 0x30) := by
    clear hne hlimit hdigit
    induction digits with
    | nil => rfl
    | cons c rest ih =>
      obtain ⟨hc, hrest⟩ := List.forall_mem_cons.1 h
      rw [List.mapM_cons, digitValue?_of_isDigit hc, ih hrest]
      rfl
  simp only [natural?, groupedDigits?_eq_mapM hdigit hne, hvalues, List.length_map, if_pos hlimit,
    asciiValue]

namespace Rate

section
variable {text : String} {whole fraction : List Char}

/-- What is worked out of a number that is not too long is worked out of few digits. -/
theorem natural?_of_spells (h : Spells text whole fraction) (hplaces : fraction.length ≤ places)
    (hlong : (significant whole).length ≤ wholePlaces) :
    Integer.natural? (significant whole) = some (asciiValue whole) ∧
      Integer.natural? (padded fraction) =
        some (asciiValue fraction * 10 ^ (places - fraction.length)) := by
  have hlength := length_padded hplaces
  constructor
  · rw [← asciiValue_significant]
    apply Integer.natural?_of_digits _ (digits_significant h.whole)
    · exact hlong.trans (by decide)
    · unfold significant
      split
      · exact List.cons_ne_nil _ _
      · assumption
  · rw [← asciiValue_padded]
    apply Integer.natural?_of_digits _ (digits_padded h.fraction)
    · rw [hlength]
      decide
    · intro hnil
      rw [hnil] at hlength
      cases hlength

theorem refused_iff {fault : RateFault} :
    Submission.rateOf (.text text) = .error (.refused (.invalidValue text fault)) ↔
      ofText text = .error fault := by
  cases h : ofText text <;> simp [Submission.rateOf, h]

theorem accepted_iff {d : Decimal} :
    Submission.rateOf (.text text) = .ok d ↔ ofText text = .ok d := by
  cases h : ofText text <;> simp [Submission.rateOf, h]

end

/-- A Unicode text is a rate exactly if it spells a number in bounds with at most eighteen places, and
then the rate is that number. Otherwise it is refused, for the first of these conditions that fails;
no conversion of digits to an integer on the way is one of too many digits. -/
theorem rateOf_text (text : String) :
    (∀ q : ℚ,
      (∃ d, Submission.rateOf (.text text) = .ok d ∧ Decimal.ofText? text = some d ∧
        d.value? = some q) ↔
      ∃ whole fraction, Spells text whole fraction ∧ fraction.length ≤ 18 ∧
        denoted whole fraction * 10 ^ 18 ≤ 2 ^ 128 - 1 ∧ denoted whole fraction = q) ∧
    (Submission.rateOf (.text text) = .error (.refused (.invalidValue text .notFixedPoint)) ↔
      ¬∃ whole fraction, Spells text whole fraction) ∧
    (Submission.rateOf (.text text) = .error (.refused (.invalidValue text .tooManyPlaces)) ↔
      ∃ whole fraction, Spells text whole fraction ∧ 18 < fraction.length) ∧
    (Submission.rateOf (.text text) = .error (.refused (.invalidValue text .tooBig)) ↔
      ∃ whole fraction, Spells text whole fraction ∧ fraction.length ≤ 18 ∧
        2 ^ 128 - 1 < denoted whole fraction * 10 ^ 18) ∧
    ∀ whole fraction, Spells text whole fraction → fraction.length ≤ 18 →
      (significant whole).length ≤ wholePlaces →
      Integer.natural? (significant whole) = some (asciiValue whole) ∧
        Integer.natural? (padded fraction) =
          some (asciiValue fraction * 10 ^ (18 - fraction.length)) := by
  have hconversions := fun whole fraction (h : Spells text whole fraction) => natural?_of_spells h
  have hgreatest : (greatest : ℚ) = 2 ^ 128 - 1 := by norm_num [greatest]
  have hcases := ofText_cases text
  simp only [hgreatest, places] at hcases hconversions
  simp only [refused_iff, accepted_iff]
  rcases hcases with ⟨hnone, htext⟩ | ⟨whole, fraction, h, hcases⟩
  · have hnone' : ∀ p : List Char → List Char → Prop,
        ¬∃ whole fraction, Spells text whole fraction ∧ p whole fraction := by
      rintro p ⟨whole, fraction, h, -⟩
      exact hnone ⟨whole, fraction, h⟩
    simpa [htext, hnone, hnone'] using hconversions
  · have hsome : ∃ whole fraction, Spells text whole fraction := ⟨whole, fraction, h⟩
    rcases hcases with ⟨hlen, htext⟩ | ⟨hlen, hbig, htext⟩ | ⟨hlen, hfits, d, htext, hd⟩
    · simpa [htext, h.exists_iff, hsome, hlen, Nat.not_le.2 hlen] using hconversions
    · simpa [htext, h.exists_iff, hsome, hlen, hbig, not_le.2 hbig] using hconversions
    · have hread := decimal_ofText? htext
      simpa [htext, h.exists_iff, hsome, hlen, hfits, not_lt.2 hfits, hd, hread] using hconversions

example : ofText "00340282366920938463463.374607431768211456" = .error .tooBig := by decide +kernel

end Rate

end MetricLedger
