import Mathlib.Data.List.TakeWhile
import MetricLedger.Number.Decimal.Printer
import MetricLedger.Number.Decimal.Reader
import MetricLedger.Rate

/-!
# Texts in fixed point

Digits, and perhaps a point with more digits. Such a text is taken apart in one way only, both
readers of decimals find the same number in it, and the plain notation of a decimal is one.
-/

namespace MetricLedger

open Text

/-! ## Digits -/

abbrev Digits (text : List Char) : Prop := ∀ c ∈ text, c.isDigit = true

theorem asciiValue_eq (text : List Char) : asciiValue text = Nat.ofDigitChars 10 text 0 := by
  rw [asciiValue, digitsValue, Nat.ofDigitChars_eq_foldl, List.foldl_map]
  rfl

theorem asciiValue_numeral (n : Nat) : asciiValue (numeral n) = n := by
  rw [asciiValue_eq, numeral, Nat.ofDigitChars_ten_toDigits]

theorem asciiValue_append (text more : List Char) :
    asciiValue (text ++ more) = 10 ^ more.length * asciiValue text + asciiValue more := by
  rw [asciiValue_eq, Nat.ofDigitChars_append, Nat.ofDigitChars_eq_ofDigitChars_zero,
    ← asciiValue_eq, ← asciiValue_eq]

theorem asciiValue_replicate_zero (n : Nat) : asciiValue (List.replicate n '0') = 0 := by
  rw [asciiValue_eq, Nat.ofDigitChars_replicate_zero, Nat.mul_zero]

theorem digits_numeral (n : Nat) : Digits (numeral n) := fun _ hc =>
  Nat.isDigit_of_mem_toDigits (by decide) (by decide) hc

theorem digits_zero : Digits ['0'] := fun c hc => by
  rw [List.mem_singleton.1 hc]
  rfl

theorem digits_replicate_zero (n : Nat) : Digits (List.replicate n '0') := fun c hc => by
  rw [List.eq_of_mem_replicate hc]
  decide

theorem length_numeral_pos (n : Nat) : 0 < (numeral n).length := Nat.length_toDigits_pos

theorem length_numeral_le_iff {n k : Nat} (hk : 0 < k) :
    (numeral n).length ≤ k ↔ n < 10 ^ k := Nat.length_toDigits_le_iff (by decide) hk

theorem pow_le_of_lt_length_numeral {n k : Nat} (h : k < (numeral n).length) (hk : 0 < k) :
    10 ^ k ≤ n := by
  rw [← Nat.not_lt, ← length_numeral_le_iff hk]
  omega

/-! ## Taking a text apart -/

/-- Digits before and after the point, which is left out if there are none after it. -/
def fixedPoint (whole fraction : List Char) : List Char :=
  whole ++ if fraction = [] then [] else '.' :: fraction

theorem fixedPoint_nil (whole : List Char) : fixedPoint whole [] = whole := by
  simp [fixedPoint]

section
variable {whole fraction : List Char}

theorem takeWhile_fixedPoint (hw : Digits whole) :
    (fixedPoint whole fraction).takeWhile Char.isDigit = whole := by
  unfold fixedPoint
  split
  · rw [List.append_nil, List.takeWhile_eq_self_iff]
    exact hw
  · rw [List.takeWhile_append_of_pos hw, List.takeWhile_cons_of_neg (by decide), List.append_nil]

theorem dropWhile_fixedPoint (hw : Digits whole) :
    (fixedPoint whole fraction).dropWhile Char.isDigit =
      if fraction = [] then [] else '.' :: fraction := by
  unfold fixedPoint
  split
  · rw [List.append_nil, List.dropWhile_eq_nil_iff]
    exact hw
  · rw [List.dropWhile_append_of_pos hw, List.dropWhile_cons_of_neg (by decide)]

theorem Rate.split?_fixedPoint (hne : whole ≠ []) (hw : Digits whole) (hf : Digits fraction) :
    Rate.split? (fixedPoint whole fraction) = some (whole, fraction) := by
  unfold Rate.split?
  simp only [takeWhile_fixedPoint hw, dropWhile_fixedPoint hw]
  cases whole with
  | nil => exact absurd rfl hne
  | cons c whole =>
    by_cases hnil : fraction = []
    · simp [hnil]
    · simp only [hnil, if_false]
      rw [if_pos ⟨hnil, List.all_eq_true.2 hf⟩]

theorem Rate.split?_eq_some {text : List Char} (h : Rate.split? text = some (whole, fraction)) :
    whole ≠ [] ∧ Digits whole ∧ Digits fraction ∧ text = fixedPoint whole fraction := by
  unfold Rate.split? at h
  have hw : Digits (text.takeWhile Char.isDigit) := fun c hc => List.mem_takeWhile_imp hc
  have htext : text.takeWhile Char.isDigit ++ text.dropWhile Char.isDigit = text :=
    List.takeWhile_append_dropWhile
  generalize text.takeWhile Char.isDigit = w at h hw htext
  generalize text.dropWhile Char.isDigit = rest at h htext
  subst htext
  cases w with
  | nil => cases h
  | cons c w =>
    cases rest with
    | nil =>
      obtain ⟨rfl, rfl⟩ := Prod.mk.inj (Option.some.inj h)
      exact ⟨by simp, hw, List.forall_mem_nil _, by simp [fixedPoint]⟩
    | cons d rest =>
      by_cases hd : d = '.'
      · subst hd
        change (if _ then _ else _) = _ at h
        split at h
        · rename_i hf
          obtain ⟨rfl, rfl⟩ := Prod.mk.inj (Option.some.inj h)
          exact ⟨by simp, hw, List.all_eq_true.1 hf.2, by simp [fixedPoint, hf.1]⟩
        · cases h
      · simp [hd] at h

/-! ## Reading -/

theorem toNat_of_isDigit {c : Char} (h : c.isDigit = true) : 0x30 ≤ c.toNat ∧ c.toNat ≤ 0x39 := by
  simp only [Char.isDigit, Bool.and_eq_true, decide_eq_true_eq, ge_iff_le,
    UInt32.le_iff_toNat_le] at h
  exact h

theorem not_isBlank_of_isDigit {c : Char} (h : c.isDigit = true) : isBlank c = false := by
  have hc := toNat_of_isDigit h
  rw [isBlank, Bool.eq_false_iff]
  simp only [ne_eq, Bool.or_eq_true, Bool.and_eq_true, decide_eq_true_eq, beq_iff_eq]
  omega

theorem trim_eq_self {blank : Char → Bool} {text : List Char}
    (h : ∀ c ∈ text, blank c = false) : trim blank text = text := by
  have hself : ∀ {l : List Char}, (∀ c ∈ l, blank c = false) → l.dropWhile blank = l := by
    intro l hl
    cases l with
    | nil => rfl
    | cons c rest =>
      rw [List.dropWhile_cons_of_neg]
      simp [hl c List.mem_cons_self]
  unfold trim
  rw [hself h, hself fun c hc => h c (List.mem_reverse.1 hc), List.reverse_reverse]

theorem Decimal.asciiForm?_eq_some {text : List Char} (h : ∀ c ∈ text, c.toNat < 128) :
    Decimal.asciiForm? text = some text := by
  induction text with
  | nil => rfl
  | cons c rest ih =>
    have ih := ih fun d hd => h d (List.mem_cons_of_mem _ hd)
    unfold Decimal.asciiForm? at ih ⊢
    rw [List.mapM_cons, if_pos (h c List.mem_cons_self), ih]
    rfl

theorem mem_fixedPoint (hw : Digits whole) (hf : Digits fraction) {c : Char}
    (hc : c ∈ fixedPoint whole fraction) : c.isDigit = true ∨ c = '.' := by
  unfold fixedPoint at hc
  split at hc
  · rw [List.append_nil] at hc
    exact .inl (hw c hc)
  · rcases List.mem_append.1 hc with hc | hc
    · exact .inl (hw c hc)
    · rcases List.mem_cons.1 hc with rfl | hc
      · exact .inr rfl
      · exact .inl (hf c hc)

theorem ne_of_isDigit {c d : Char} (hc : c.isDigit = true) (hd : d.isDigit = false) : c ≠ d := by
  rintro rfl
  rw [hc] at hd
  cases hd

theorem toLower_of_isDigit {c : Char} (h : c.isDigit = true) : c.toLower = c := by
  have hc := toNat_of_isDigit h
  unfold Char.toLower
  rw [dif_neg]
  rintro ⟨hA, -⟩
  simp only [ge_iff_le, UInt32.le_iff_toNat_le] at hA
  change 65 ≤ c.toNat at hA
  omega

theorem Decimal.unsigned?_of_isDigit (negative : Bool) {c : Char} {rest : List Char}
    (h : c.isDigit = true) :
    Decimal.unsigned? negative (c :: rest) = Decimal.number? negative (c :: rest) := by
  unfold Decimal.unsigned?
  rw [List.map_cons, toLower_of_isDigit h]
  split
  · rename_i heq
    exact absurd (List.cons.inj heq).1 (ne_of_isDigit h (by decide))
  · rename_i heq
    exact absurd (List.cons.inj heq).1 (ne_of_isDigit h (by decide))
  · rename_i heq
    exact absurd (List.cons.inj heq).1 (ne_of_isDigit h (by decide))
  · rename_i heq
    exact absurd (List.cons.inj heq).1 (ne_of_isDigit h (by decide))
  · rfl

theorem Decimal.signed?_withSign (negative : Bool) {c : Char} {rest : List Char}
    (hminus : c ≠ '-') (hplus : c ≠ '+') :
    Decimal.signed? (Decimal.withSign negative (c :: rest)) =
      Decimal.unsigned? negative (c :: rest) := by
  cases negative with
  | true => rfl
  | false =>
    change Decimal.signed? (c :: rest) = _
    unfold Decimal.signed?
    split
    · rename_i heq
      exact absurd (List.cons.inj heq).1 hminus
    · rename_i heq
      exact absurd (List.cons.inj heq).1 hplus
    · rfl

def Decimal.IsPlain (c : Char) : Prop := isBlank c = false ∧ c ≠ '_' ∧ c.toNat < 128

theorem Decimal.isPlain_of_isDigit {c : Char} (h : c.isDigit = true) : Decimal.IsPlain c := by
  refine ⟨not_isBlank_of_isDigit h, ne_of_isDigit h (by decide), ?_⟩
  have := toNat_of_isDigit h
  omega

theorem Decimal.ofChars?_eq_signed? {text : List Char} (h : ∀ c ∈ text, Decimal.IsPlain c) :
    Decimal.ofChars? text = Decimal.signed? text := by
  have hunderscore : text.filter (· != '_') = text :=
    List.filter_eq_self.2 fun c hc => bne_iff_ne.2 (h c hc).2.1
  unfold Decimal.ofChars?
  rw [trim_eq_self fun c hc => (h c hc).1, hunderscore,
    Decimal.asciiForm?_eq_some fun c hc => (h c hc).2.2, Option.bind_some]

theorem Decimal.isPlain_of_mem_withSign {negative : Bool} {body : List Char}
    (h : ∀ c ∈ body, Decimal.IsPlain c) :
    ∀ c ∈ Decimal.withSign negative body, Decimal.IsPlain c := by
  intro c hc
  cases negative with
  | false => exact h c hc
  | true =>
    rcases List.mem_cons.1 hc with rfl | hc
    · exact ⟨by decide, by decide, by decide⟩
    · exact h c hc

theorem Decimal.number?_fixedPoint (negative : Bool) (hne : whole ≠ []) (hw : Digits whole)
    (hf : Digits fraction) :
    Decimal.number? negative (fixedPoint whole fraction) =
      Decimal.bounded? negative (asciiValue (whole ++ fraction)) (-(fraction.length : Int)) := by
  unfold Decimal.number?
  rw [takeWhile_fixedPoint hw, dropWhile_fixedPoint hw]
  by_cases hnil : fraction = []
  · subst hnil
    simp [hne, Decimal.exponent?]
  · have htake : fraction.takeWhile Char.isDigit = fraction := List.takeWhile_eq_self_iff.2 hf
    have hdrop : fraction.dropWhile Char.isDigit = [] := List.dropWhile_eq_nil_iff.2 hf
    simp [hnil, htake, hdrop, Decimal.exponent?]

theorem Decimal.ofChars?_fixedPoint (negative : Bool) (hne : whole ≠ []) (hw : Digits whole)
    (hf : Digits fraction) :
    Decimal.ofChars? (Decimal.withSign negative (fixedPoint whole fraction)) =
      Decimal.bounded? negative (asciiValue (whole ++ fraction)) (-(fraction.length : Int)) := by
  have hplain : ∀ c ∈ fixedPoint whole fraction, Decimal.IsPlain c := fun c hc => by
    rcases mem_fixedPoint hw hf hc with hc | rfl
    · exact Decimal.isPlain_of_isDigit hc
    · exact ⟨by decide, by decide, by decide⟩
  rw [Decimal.ofChars?_eq_signed? (Decimal.isPlain_of_mem_withSign hplain),
    ← Decimal.number?_fixedPoint negative hne hw hf]
  cases whole with
  | nil => exact absurd rfl hne
  | cons c whole =>
    have hc := hw c List.mem_cons_self
    exact (Decimal.signed?_withSign negative (ne_of_isDigit hc (by decide))
      (ne_of_isDigit hc (by decide))).trans (Decimal.unsigned?_of_isDigit negative hc)

/-! ## Units of the last place -/

theorem asciiValue_zero_cons (text : List Char) : asciiValue ('0' :: text) = asciiValue text := by
  have h := asciiValue_append ['0'] text
  rwa [show asciiValue ['0'] = 0 from rfl, Nat.mul_zero, Nat.zero_add] at h

theorem asciiValue_dropWhile_zero (text : List Char) :
    asciiValue (text.dropWhile (· == '0')) = asciiValue text := by
  induction text with
  | nil => rfl
  | cons c rest ih =>
    by_cases hc : c = '0'
    · rw [hc, List.dropWhile_cons_of_pos (by rfl), ih, asciiValue_zero_cons]
    · rw [List.dropWhile_cons_of_neg (by simpa using hc)]

/-- Digits that start with another one than zero make a number as long as they are. -/
theorem pow_le_asciiValue {c : Char} {rest : List Char} (hc : c.isDigit = true) (h0 : c ≠ '0') :
    10 ^ rest.length ≤ asciiValue (c :: rest) := by
  have hone : 1 ≤ asciiValue [c] := by
    have hlow := toNat_of_isDigit hc
    have hne : c.toNat ≠ 0x30 := fun heq => h0 (Char.toNat_inj.1 heq)
    change 1 ≤ 10 * 0 + (c.toNat - 0x30)
    omega
  have happend := asciiValue_append [c] rest
  have hmul := Nat.mul_le_mul_left (10 ^ rest.length) hone
  rw [List.singleton_append] at happend
  omega

namespace Rate

theorem asciiValue_significant (whole : List Char) :
    asciiValue (significant whole) = asciiValue whole := by
  rw [← asciiValue_dropWhile_zero whole, significant]
  split
  · rename_i hnil
    rw [hnil]
    rfl
  · rfl

theorem digits_significant (h : Digits whole) : Digits (significant whole) := by
  unfold significant
  split
  · exact digits_zero
  · exact fun c hc => h c ((List.dropWhile_sublist _).subset hc)

theorem digits_padded (h : Digits fraction) : Digits (padded fraction) := by
  intro c hc
  rcases List.mem_append.1 hc with hc | hc
  · exact h c hc
  · exact digits_replicate_zero _ c hc

theorem length_padded (h : fraction.length ≤ places) : (padded fraction).length = places := by
  rw [padded, List.length_append, List.length_replicate]
  omega

theorem pow_le_of_lt_length_significant (hw : Digits whole) {k : Nat} (hk : 0 < k)
    (h : k < (significant whole).length) : 10 ^ k ≤ asciiValue whole := by
  rw [← asciiValue_dropWhile_zero]
  cases hdrop : whole.dropWhile (· == '0') with
  | nil =>
    rw [significant, hdrop, List.length_singleton] at h
    omega
  | cons c rest =>
    have hmem : c ∈ whole := (List.dropWhile_sublist (· == '0')).subset
      (hdrop ▸ List.mem_cons_self)
    have hc : c ≠ '0' := by
      have hhead := List.head?_dropWhile_not (· == '0') whole
      rw [hdrop] at hhead
      simpa using hhead
    rw [significant, hdrop, List.length_cons] at h
    apply (Nat.pow_le_pow_right (by decide) _).trans (pow_le_asciiValue (hw c hmem) hc)
    omega

theorem asciiValue_padded (fraction : List Char) :
    asciiValue (padded fraction) = asciiValue fraction * 10 ^ (places - fraction.length) := by
  rw [padded, asciiValue_append, asciiValue_replicate_zero, List.length_replicate, Nat.add_zero,
    Nat.mul_comm]

theorem units_significant (h : fraction.length ≤ places) :
    units (significant whole) fraction =
      asciiValue (whole ++ fraction) * 10 ^ (places - fraction.length) := by
  have hfraction : (if fraction = [] then 0 else asciiValue (padded fraction)) =
      asciiValue fraction * 10 ^ (places - fraction.length) := by
    split
    · rename_i hnil
      rw [hnil, show asciiValue [] = 0 from rfl, Nat.zero_mul]
    · exact asciiValue_padded fraction
  have hpow : 10 ^ places = 10 ^ fraction.length * 10 ^ (places - fraction.length) := by
    rw [← Nat.pow_add]
    congr 1
    omega
  rw [units, hfraction, asciiValue_significant, asciiValue_append, Nat.add_mul, hpow,
    ← Nat.mul_assoc, Nat.mul_comm (asciiValue whole)]

/-- No number is too big by the count of its digits that is not too big by its units. -/
theorem ofText_of_split (hw : Digits whole) {text : String}
    (h : split? text.toList = some (whole, fraction)) :
    ofText text =
      if places < fraction.length then .error .tooManyPlaces
      else if greatest < asciiValue (whole ++ fraction) * 10 ^ (places - fraction.length) then
        .error .tooBig
      else .ok (.finite false (asciiValue (whole ++ fraction)) (-(fraction.length : Int))) := by
  rw [ofText, h]
  by_cases hplaces : places < fraction.length
  · simp only [if_pos hplaces]
  · simp only [if_neg hplaces]
    have hunits : units (significant whole) fraction = _ := units_significant (Nat.not_lt.1 hplaces)
    by_cases hlong : wholePlaces < (significant whole).length
    · have hbig : greatest < units (significant whole) fraction := by
        have hpow := pow_le_of_lt_length_significant hw (by decide) hlong
        have hwhole : asciiValue (significant whole) * 10 ^ places ≤
            units (significant whole) fraction := Nat.le_add_right _ _
        rw [asciiValue_significant] at hwhole
        unfold wholePlaces at hpow
        unfold greatest
        unfold places at hwhole
        omega
      rw [if_pos hlong, if_pos (hunits ▸ hbig)]
    · rw [if_neg hlong, hunits]

end Rate

end

/-! ## Plain notation -/

/-- Plain notation is in fixed point: with a negative exponent it keeps digits and exponent, and
otherwise it is the digits of the whole number. -/
theorem Decimal.positional_eq_fixedPoint (coefficient : Nat) (exponent : Int) :
    ∃ whole fraction, Decimal.positional coefficient exponent = fixedPoint whole fraction ∧
      whole ≠ [] ∧ Digits whole ∧ Digits fraction ∧ fraction.length = (-exponent).toNat ∧
      asciiValue (whole ++ fraction) = coefficient * 10 ^ exponent.toNat := by
  unfold Decimal.positional Decimal.placePoint
  have hdigits := digits_numeral coefficient
  have hpos := length_numeral_pos coefficient
  have hvalue := asciiValue_numeral coefficient
  simp only
  generalize numeral coefficient = digits at hdigits hpos hvalue ⊢
  split
  · refine ⟨['0'], List.replicate (-(digits.length + exponent)).toNat '0' ++ digits, ?_, by simp,
      digits_zero, ?_, ?_, ?_⟩
    · have : digits ≠ [] := List.length_pos_iff.1 hpos
      simp [fixedPoint, this]
    · intro c hc
      rcases List.mem_append.1 hc with hc | hc
      · exact digits_replicate_zero _ c hc
      · exact hdigits c hc
    · rw [List.length_append, List.length_replicate]
      omega
    · rw [asciiValue_append, asciiValue_append, asciiValue_replicate_zero, hvalue,
        show asciiValue ['0'] = 0 from rfl, show exponent.toNat = 0 by omega]
      omega
  · split
    · have hexp : (digits.length + exponent).toNat - digits.length = exponent.toNat := by omega
      refine ⟨_, [], (fixedPoint_nil _).symm, ?_, ?_, List.forall_mem_nil _, ?_, ?_⟩
      · exact List.append_ne_nil_of_left_ne_nil (List.length_pos_iff.1 hpos) _
      · intro c hc
        rcases List.mem_append.1 hc with hc | hc
        · exact hdigits c hc
        · exact digits_replicate_zero _ c hc
      · rw [List.length_nil]
        omega
      · rw [List.append_nil, asciiValue_append, asciiValue_replicate_zero, hvalue,
          List.length_replicate, hexp, Nat.add_zero, Nat.mul_comm]
    · refine ⟨digits.take (digits.length + exponent).toNat,
        digits.drop (digits.length + exponent).toNat, ?_, ?_, ?_, ?_, ?_, ?_⟩
      · have : digits.drop (digits.length + exponent).toNat ≠ [] := by
          rw [ne_eq, List.drop_eq_nil_iff]
          omega
        simp [fixedPoint, this]
      · rw [ne_eq, List.take_eq_nil_iff, not_or]
        exact ⟨by omega, List.length_pos_iff.1 hpos⟩
      · exact fun c hc => hdigits c (List.mem_of_mem_take hc)
      · exact fun c hc => hdigits c (List.mem_of_mem_drop hc)
      · rw [List.length_drop]
        omega
      · rw [List.take_append_drop, hvalue, show exponent.toNat = 0 by omega, Nat.pow_zero,
          Nat.mul_one]

end MetricLedger
