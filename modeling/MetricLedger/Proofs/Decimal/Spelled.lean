import Mathlib.Tactic.FieldSimp
import MetricLedger.Proofs.Decimal.Rounded

/-!
# What a text in fixed point denotes

A text in fixed point spells one number, which its digits give exactly. Whether it is a rate hangs
on its places and on that number, and neither the zeros in front nor the way in which the number is
worked out matters.
-/

namespace MetricLedger

open Text

namespace Rate

/-- The text is in fixed point, with these digits before and after the point. -/
structure Spells (text : String) (whole fraction : List Char) : Prop where
  text : text.toList = fixedPoint whole fraction
  nonempty : whole ≠ []
  whole : Digits whole
  fraction : Digits fraction

def denoted (whole fraction : List Char) : ℚ :=
  asciiValue whole + asciiValue fraction / 10 ^ fraction.length

section
variable {text : String} {whole fraction whole' fraction' : List Char}

theorem split?_eq_some_iff :
    split? text.toList = some (whole, fraction) ↔ Spells text whole fraction := by
  constructor
  · intro h
    obtain ⟨hne, hw, hf, htext⟩ := split?_eq_some h
    exact ⟨htext, hne, hw, hf⟩
  · intro h
    rw [h.text, split?_fixedPoint h.nonempty h.whole h.fraction]

theorem Spells.unique (h : Spells text whole fraction) (h' : Spells text whole' fraction') :
    whole' = whole ∧ fraction' = fraction := by
  have heq := (split?_eq_some_iff.2 h').symm.trans (split?_eq_some_iff.2 h)
  exact Prod.mk.inj (Option.some.inj heq)

theorem denoted_eq (whole fraction : List Char) :
    denoted whole fraction = asciiValue (whole ++ fraction) * 10 ^ (-(fraction.length : ℤ)) := by
  have hpos : (10 : ℚ) ^ fraction.length ≠ 0 := by positivity
  rw [denoted, asciiValue_append, zpow_neg, zpow_natCast]
  push_cast
  field_simp

theorem fits_iff (h : fraction.length ≤ places) :
    denoted whole fraction * 10 ^ places ≤ greatest ↔
      asciiValue (whole ++ fraction) * 10 ^ (places - fraction.length) ≤ greatest := by
  have hunits : denoted whole fraction * 10 ^ places =
      (asciiValue (whole ++ fraction) * 10 ^ (places - fraction.length) : ℕ) := by
    have hpow : (10 : ℚ) ^ places = 10 ^ fraction.length * 10 ^ (places - fraction.length) := by
      rw [← pow_add]
      congr 1
      omega
    rw [denoted_eq, hpow, zpow_neg, zpow_natCast]
    push_cast
    field_simp
  rw [hunits, Nat.cast_le]

theorem ofText_of_spells (h : Spells text whole fraction) :
    ofText text =
      if places < fraction.length then .error .tooManyPlaces
      else if greatest < denoted whole fraction * 10 ^ places then .error .tooBig
      else .ok (.finite false (asciiValue (whole ++ fraction)) (-(fraction.length : Int))) := by
  rw [ofText_of_split h.whole (split?_eq_some_iff.2 h)]
  by_cases hplaces : places < fraction.length
  · rw [if_pos hplaces, if_pos hplaces]
  · have hfits : denoted whole fraction * 10 ^ places ≤ greatest ↔ _ :=
      fits_iff (Nat.not_lt.1 hplaces)
    rw [if_neg hplaces, if_neg hplaces]
    simp only [← not_le, hfits]

theorem ofText_of_not_spells (h : ¬∃ whole fraction, Spells text whole fraction) :
    ofText text = .error .notFixedPoint := by
  cases hsplit : split? text.toList with
  | none => rw [ofText, hsplit]
  | some parts => exact absurd ⟨parts.1, parts.2, split?_eq_some_iff.1 hsplit⟩ h

theorem Spells.exists_iff (h : Spells text whole fraction)
    {p : List Char → List Char → Prop} :
    (∃ whole fraction, Spells text whole fraction ∧ p whole fraction) ↔ p whole fraction := by
  constructor
  · rintro ⟨whole', fraction', h', hp⟩
    obtain ⟨rfl, rfl⟩ := h.unique h'
    exact hp
  · exact fun hp => ⟨whole, fraction, h, hp⟩

/-- What can become of a text. -/
theorem ofText_cases (text : String) :
    (¬∃ whole fraction, Spells text whole fraction) ∧ ofText text = .error .notFixedPoint ∨
    ∃ whole fraction, Spells text whole fraction ∧
      (places < fraction.length ∧ ofText text = .error .tooManyPlaces ∨
        fraction.length ≤ places ∧ greatest < denoted whole fraction * 10 ^ places ∧
          ofText text = .error .tooBig ∨
        fraction.length ≤ places ∧ denoted whole fraction * 10 ^ places ≤ greatest ∧
          ∃ d, ofText text = .ok d ∧ d.value? = some (denoted whole fraction)) := by
  by_cases hspelled : ∃ whole fraction, Spells text whole fraction
  · obtain ⟨whole, fraction, h⟩ := hspelled
    refine .inr ⟨whole, fraction, h, ?_⟩
    have hresult := ofText_of_spells h
    by_cases hlen : places < fraction.length
    · rw [if_pos hlen] at hresult
      exact .inl ⟨hlen, hresult⟩
    · rw [if_neg hlen] at hresult
      by_cases hbig : greatest < denoted whole fraction * 10 ^ places
      · rw [if_pos hbig] at hresult
        exact .inr (.inl ⟨Nat.not_lt.1 hlen, hbig, hresult⟩)
      · rw [if_neg hbig] at hresult
        refine .inr (.inr ⟨Nat.not_lt.1 hlen, not_lt.1 hbig, _, hresult, ?_⟩)
        rw [Decimal.value?_finite, denoted_eq]
  · exact .inl ⟨hspelled, ofText_of_not_spells hspelled⟩

end

end Rate

end MetricLedger
