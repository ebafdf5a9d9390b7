import MetricLedger.Proofs.Json.Grammar

/-!
# Reading numbers

The parts of a number are read one after the other, each as far as it goes. So what is read is a
number of the grammar, and a number of the grammar is read whole unless what follows could belong to
it.
-/

namespace MetricLedger.Json

open Text

def EndsDigits (s : List Char) : Prop := ∀ c ∈ s.head?, c.isDigit = false

def EndsNumber (s : List Char) : Prop :=
  ∀ c ∈ s.head?, c.isDigit = false ∧ c ≠ '.' ∧ c ≠ 'e' ∧ c ≠ 'E'

section
variable {s s' rest digits whole fraction : List Char} {power : Option Int} {n : Int}

theorem EndsNumber.endsDigits (h : EndsNumber s) : EndsDigits s := fun c hc => (h c hc).1

theorem takeWhile_append_digits (h : Digits digits) (hs : EndsDigits s) :
    (digits ++ s).takeWhile Char.isDigit = digits := by
  rw [List.takeWhile_append_of_pos h]
  cases s with
  | nil => rw [List.takeWhile_nil, List.append_nil]
  | cons c s =>
    have hc := hs c rfl
    rw [List.takeWhile_cons_of_neg (by simp [hc]), List.append_nil]

theorem dropWhile_append_digits (h : Digits digits) (hs : EndsDigits s) :
    (digits ++ s).dropWhile Char.isDigit = s := by
  rw [List.dropWhile_append_of_pos h]
  cases s with
  | nil => rfl
  | cons c s =>
    have hc := hs c rfl
    rw [List.dropWhile_cons_of_neg (by simp [hc])]

theorem digits_takeWhile (s : List Char) : Digits (s.takeWhile Char.isDigit) :=
  fun _ hc => List.mem_takeWhile_imp hc

/-! ## The digits before the point -/

theorem isWhole_zero : IsWhole ['0'] := ⟨digits_zero, List.cons_ne_nil _ _, fun _ => rfl⟩

theorem IsWhole.exists_digit (h : IsWhole whole) :
    ∃ c digits, whole = c :: digits ∧ c.isDigit = true ∧ Digits digits := by
  obtain ⟨c, digits, rfl⟩ := List.exists_cons_of_ne_nil h.nonempty
  obtain ⟨hc, hdigits⟩ := List.forall_mem_cons.1 h.all
  exact ⟨c, digits, rfl, hc, hdigits⟩

theorem isWhole_of_readWhole (h : readWhole s = some (whole, s')) :
    IsWhole whole ∧ whole.length ≤ Integer.digitLimit ∧ s = whole ++ s' := by
  unfold readWhole at h
  split at h
  · cases h
    exact ⟨isWhole_zero, by decide, rfl⟩
  · rename_i c tail hzero
    split at h
    · rename_i hc
      cases h
      have hwhole : IsWhole (c :: tail.takeWhile Char.isDigit) := by
        refine ⟨List.forall_mem_cons.2 ⟨hc.1, digits_takeWhile tail⟩, List.cons_ne_nil _ _, ?_⟩
        intro hhead
        cases hhead
        exact absurd rfl hzero
      refine ⟨hwhole, hc.2, ?_⟩
      rw [List.cons_append, List.takeWhile_append_dropWhile]
    · cases h
  · cases h

theorem readWhole_append (h : IsWhole whole) (hlen : whole.length ≤ Integer.digitLimit)
    (hs : EndsDigits s) : readWhole (whole ++ s) = some (whole, s) := by
  by_cases hzero : whole.head? = some '0'
  · rw [h.zero hzero]
    rfl
  · obtain ⟨c, digits, rfl, hc, hdigits⟩ := h.exists_digit
    have hc0 : c ≠ '0' := by
      rintro rfl
      exact hzero rfl
    rw [List.cons_append, readWhole, takeWhile_append_digits hdigits hs,
      dropWhile_append_digits hdigits hs, if_pos ⟨hc, hlen⟩]
    exact hc0

/-! ## The digits behind the point -/

theorem Fraction.of_readFraction (h : readFraction s = some (fraction, s')) :
    Fraction fraction s s' := by
  unfold readFraction at h
  split at h
  · split at h
    · cases h
    · rename_i tail hne
      cases h
      have hfraction : Fraction (tail.takeWhile Char.isDigit)
          ('.' :: tail.takeWhile Char.isDigit ++ tail.dropWhile Char.isDigit)
          (tail.dropWhile Char.isDigit) := .digits hne (digits_takeWhile tail)
      rwa [List.cons_append, List.takeWhile_append_dropWhile] at hfraction
  · cases h
    exact .none

theorem Fraction.readFraction_eq (h : Fraction fraction s s') (hs : EndsDigits s')
    (hpoint : s'.head? ≠ some '.') : readFraction s = some (fraction, s') := by
  cases h with
  | none =>
    unfold readFraction
    split
    · exact absurd rfl hpoint
    · rfl
  | digits hne hdigits =>
    rw [List.cons_append, readFraction, takeWhile_append_digits hdigits hs,
      dropWhile_append_digits hdigits hs, if_neg hne]

theorem Fraction.endsDigits (h : Fraction fraction s s') (hs : EndsDigits s') : EndsDigits s := by
  cases h with
  | none => exact hs
  | digits => 
    rintro c hc
    cases hc
    rfl

/-! ## The exponent -/

theorem exists_power_of_readPower {negative : Bool} (h : readPower negative s = some (power, rest)) :
    ∃ digits, digits ≠ [] ∧ Digits digits ∧ s = digits ++ rest ∧
      power = some (if negative then -(asciiValue digits : Int) else asciiValue digits) := by
  unfold readPower at h
  simp only at h
  split at h
  · cases h
  · rename_i hne
    cases h
    exact ⟨_, hne, digits_takeWhile s, List.takeWhile_append_dropWhile.symm, rfl⟩

theorem readPower_append (negative : Bool) (hne : digits ≠ []) (h : Digits digits)
    (hs : EndsDigits rest) :
    readPower negative (digits ++ rest) =
      some (some (if negative then -(asciiValue digits : Int) else asciiValue digits), rest) := by
  unfold readPower
  simp only [takeWhile_append_digits h hs, dropWhile_append_digits h hs, if_neg hne]

theorem Exponent.of_readExponent (h : readExponent s = some (power, rest)) :
    Exponent power s rest := by
  unfold readExponent at h
  split at h
  · split at h
    · rename_i hmark
      split at h
      · obtain ⟨digits, hne, hdigits, rfl, rfl⟩ := exists_power_of_readPower h
        exact .power hmark (.minus hne hdigits)
      · obtain ⟨digits, hne, hdigits, rfl, rfl⟩ := exists_power_of_readPower h
        exact .power hmark (.plus hne hdigits)
      · obtain ⟨digits, hne, hdigits, rfl, rfl⟩ := exists_power_of_readPower h
        exact .power hmark (.plain hne hdigits)
    · cases h
      exact .none
  · cases h
    exact .none

theorem Exponent.readExponent_eq (h : Exponent power s rest) (hs : EndsNumber rest) :
    readExponent s = some (power, rest) := by
  cases h with
  | none =>
    cases s with
    | nil => rfl
    | cons c s =>
      have hc := hs c rfl
      simp [readExponent.eq_def, hc]
  | power hmark hpower =>
    rw [readExponent.eq_def]
    simp only
    rw [if_pos hmark]
    cases hpower with
    | plus hne hdigits => exact readPower_append false hne hdigits hs.endsDigits
    | minus hne hdigits => exact readPower_append true hne hdigits hs.endsDigits
    | plain hne hdigits =>
      have hread := readPower_append false hne hdigits hs.endsDigits
      obtain ⟨c, digits, rfl⟩ := List.exists_cons_of_ne_nil hne
      have hc := hdigits c List.mem_cons_self
      split
      · rename_i heq
        cases heq
        cases hc
      · rename_i heq
        cases heq
        cases hc
      · exact hread

/-- What stands behind the digits of a number is no further digit and no point. -/
theorem Exponent.ends (h : Exponent power s rest) (hs : EndsNumber rest) :
    EndsDigits s ∧ s.head? ≠ some '.' := by
  cases h with
  | none => exact ⟨hs.endsDigits, fun hpoint => (hs '.' hpoint).2.1 rfl⟩
  | power hmark =>
    rcases hmark with rfl | rfl
    · exact ⟨by rintro c ⟨⟩; rfl, by simp⟩
    · exact ⟨by rintro c ⟨⟩; rfl, by simp⟩

/-! ## Numbers -/

variable {v : Value} {limit : Option Nat}

theorem Numeral.of_readUnsigned {negative : Bool} (h : readUnsigned negative s = some (v, rest)) :
    Numeral (some Integer.digitLimit) v (Decimal.withSign negative s) rest := by
  simp only [readUnsigned, bind, Option.bind_eq_some_iff, pure, Option.some.injEq,
    Prod.mk.injEq] at h
  obtain ⟨⟨whole, s₁⟩, h₁, ⟨fraction, s₂⟩, h₂, ⟨power, s₃⟩, h₃, rfl, rfl⟩ := h
  obtain ⟨hwhole, hlen, rfl⟩ := isWhole_of_readWhole h₁
  apply Numeral.mk hwhole _ (.of_readFraction h₂) (.of_readExponent h₃)
  rintro _ ⟨⟩
  exact hlen

theorem readUnsigned_append {negative : Bool} (hwhole : IsWhole whole)
    (hlen : whole.length ≤ Integer.digitLimit) (hfraction : Fraction fraction s s')
    (hpower : Exponent power s' rest) (hs : EndsNumber rest) :
    readUnsigned negative (whole ++ s) = some (number negative whole fraction power, rest) := by
  obtain ⟨hends, hpoint⟩ := hpower.ends hs
  simp [readUnsigned, readWhole_append hwhole hlen (hfraction.endsDigits hends),
    hfraction.readFraction_eq hends hpoint, hpower.readExponent_eq hs]

theorem Numeral.of_readNumber (h : readNumber s = some (v, rest)) :
    Numeral (some Integer.digitLimit) v s rest := by
  unfold readNumber at h
  split at h
  · exact of_readUnsigned h
  · exact of_readUnsigned h

/-- A number starts with a digit, perhaps behind a minus sign. -/
theorem Numeral.exists_digit (h : Numeral limit v s rest) :
    ∃ negative c tail, s = Decimal.withSign negative (c :: tail) ∧ c.isDigit = true := by
  obtain ⟨hwhole, -, -, -⟩ := h
  obtain ⟨c, digits, rfl, hc, -⟩ := hwhole.exists_digit
  exact ⟨_, c, _, rfl, hc⟩

theorem readNumber_of_digit {negative : Bool} {c : Char} (hc : c.isDigit = true) :
    readNumber (Decimal.withSign negative (c :: s)) = readUnsigned negative (c :: s) := by
  cases negative with
  | true => rfl
  | false =>
    change readNumber (c :: s) = _
    unfold readNumber
    split
    · rename_i heq
      cases heq
      cases hc
    · rfl

theorem Numeral.readNumber_eq (h : Numeral (some Integer.digitLimit) v s rest)
    (hs : EndsNumber rest) : readNumber s = some (v, rest) := by
  obtain ⟨hwhole, hlen, hfraction, hpower⟩ := h
  obtain ⟨c, digits, rfl, hc, -⟩ := hwhole.exists_digit
  rw [List.cons_append, readNumber_of_digit hc]
  exact readUnsigned_append hwhole (hlen _ rfl) hfraction hpower hs

end

end MetricLedger.Json
