import Mathlib.Algebra.GroupWithZero.Nat
import MetricLedger.Proofs.Json.Items

/-!
# The ink of a text

The ink of a text is all of it but its spaces. However a value is spelled, there is ink for each
text in it, and a character that has to be escaped takes more than its own.
-/

namespace MetricLedger.Json

open Text

def ink (s : List Char) : Nat := s.countP (· ≠ ' ')

def isPlain (c : Char) : Bool := 0x20 ≤ c.toNat && c ≠ '"' && c ≠ '\\'

/-- The least ink that spells a character. -/
def charInk (c : Char) : Nat := if c = ' ' then 0 else if isPlain c then 1 else 2

def textInk (t : String) : Nat := (t.toList.map charInk).sum + 2

def Value.ink : Value → Nat
  | .text t => textInk t
  | _ => 0

def memberInk (m : String × Value) : Nat := textInk m.1 + m.2.ink + 1

section
variable {s s' rest : List Char}

theorem ink_cons (c : Char) (s : List Char) :
    ink (c :: s) = (if c = ' ' then 0 else 1) + ink s := by
  unfold ink
  rw [List.countP_cons, Nat.add_comm]
  by_cases hc : c = ' ' <;> simp [hc]

theorem ink_append (s s' : List Char) : ink (s ++ s') = ink s + ink s' := List.countP_append

theorem ink_le_of_suffix (h : rest <:+ s) : ink rest ≤ ink s := h.sublist.countP_le

/-! ## Plain texts -/

theorem ink_singleton_le (c : Char) : (if c = ' ' then 0 else 1) ≤ charInk c := by
  unfold charInk
  by_cases hc : c = ' '
  · simp [hc]
  · by_cases hplain : isPlain c = true <;> simp [hc, hplain]

theorem ink_le_charInk (s : List Char) : ink s ≤ (s.map charInk).sum := by
  induction s with
  | nil => exact Nat.le_refl _
  | cons c s ih =>
    have := ink_singleton_le c
    rw [ink_cons, List.map_cons, List.sum_cons]
    omega

theorem isPlain_of_charInk_le {c : Char} (h : charInk c ≤ if c = ' ' then 0 else 1) :
    isPlain c = true := by
  unfold charInk at h
  by_cases hc : c = ' '
  · subst hc
    decide
  · by_cases hplain : isPlain c = true
    · exact hplain
    · simp [hc, hplain] at h

/-- A text that takes no more ink than its own has nothing to escape. -/
theorem isPlain_of_ink_le (h : (s.map charInk).sum ≤ ink s) : ∀ c ∈ s, isPlain c = true := by
  induction s with
  | nil => simp
  | cons c s ih =>
    have hc := ink_singleton_le c
    have hs := ink_le_charInk s
    rw [ink_cons, List.map_cons, List.sum_cons] at h
    exact List.forall_mem_cons.2 ⟨isPlain_of_charInk_le (by omega), ih (by omega)⟩

theorem letters_plain {chars : List Char} (h : ∀ c ∈ chars, isPlain c = true) :
    Letters chars (chars ++ '"' :: rest) rest := by
  induction chars with
  | nil => exact .nil
  | cons c chars ih =>
    obtain ⟨hc, hchars⟩ := List.forall_mem_cons.1 h
    simp only [isPlain, Bool.and_eq_true, decide_eq_true_eq] at hc
    exact .cons (.plain hc.1.1 hc.1.2 hc.2) (ih hchars)

/-- A plain text stands between its quotes as it is. -/
theorem quoted_plain {t : String} (h : ∀ c ∈ t.toList, isPlain c = true) :
    Quoted t ('"' :: (t.toList ++ '"' :: rest)) rest := by
  have hletters : Letters t.toList (t.toList ++ '"' :: rest) rest := letters_plain h
  have hquoted := Quoted.mk hletters
  rwa [String.ofList_toList] at hquoted

/-! ## Spelled texts -/

theorem Blanks.ink_le (h : Blanks s rest) : ink rest ≤ ink s := by
  induction h with
  | none => exact Nat.le_refl _
  | cons _ _ ih =>
    rw [ink_cons]
    omega

theorem Units.ink_le {units : List Nat} (h : Units units s rest) : ink rest ≤ ink s := by
  induction h with
  | nil => exact Nat.le_refl _
  | cons _ _ ih =>
    simp only [ink_cons]
    omega

theorem charInk_le_two (c : Char) : charInk c ≤ 2 := by
  unfold charInk
  by_cases hc : c = ' '
  · simp [hc]
  · by_cases hplain : isPlain c = true <;> simp [hc, hplain]

theorem ne_space_of_shortEscape {e c : Char} (h : (e, c) ∈ shortEscapes) : e ≠ ' ' := by
  simp only [shortEscapes, List.mem_cons, Prod.mk.injEq, List.not_mem_nil, or_false] at h
  rcases h with h | h | h | h | h | h | h | h
  all_goals
    rw [h.1]
    decide

theorem units16_ne_nil (c : Char) : units16 c ≠ [] := by
  unfold units16
  split <;> simp

/-- A backslash and what stands behind it are more than one character. -/
theorem Letter.ink_le {c : Char} (h : Letter c s rest) : charInk c + ink rest ≤ ink s := by
  cases h with
  | plain hlow hquote hslash =>
    have hplain : isPlain c = true := by simp [isPlain, hlow, hquote, hslash]
    rw [ink_cons, charInk]
    simp [hplain]
  | short hescape =>
    have := charInk_le_two c
    simp only [ink_cons, ne_space_of_shortEscape hescape, ite_false]
    simp
    omega
  | units hunits =>
    have := charInk_le_two c
    generalize hlist : units16 c = units at hunits
    cases hunits with
    | nil => exact absurd hlist (units16_ne_nil c)
    | cons hunit hunits =>
      have := hunits.ink_le
      simp only [ink_cons]
      simp
      omega

theorem Letters.ink_le {chars : List Char} (h : Letters chars s rest) :
    (chars.map charInk).sum + 1 + ink rest ≤ ink s := by
  induction h with
  | nil => simp [ink_cons]
  | cons hletter _ ih =>
    have := hletter.ink_le
    rw [List.map_cons, List.sum_cons]
    omega

theorem Quoted.ink_le {t : String} (h : Quoted t s rest) : textInk t + ink rest ≤ ink s := by
  obtain ⟨hletters⟩ := h
  have := hletters.ink_le
  rw [textInk, String.toList_ofList, ink_cons]
  simp
  omega

/-! ## Spelled values -/

theorem Fraction.suffix {digits : List Char} (h : Fraction digits s rest) : rest <:+ s := by
  cases h with
  | none => exact List.suffix_refl _
  | digits => exact List.suffix_append _ _

theorem Power.suffix {n : Int} (h : Power n s rest) : rest <:+ s := by
  cases h <;> exact List.suffix_append _ _

theorem Exponent.suffix {power : Option Int} (h : Exponent power s rest) : rest <:+ s := by
  cases h with
  | none => exact List.suffix_refl _
  | power _ h => exact h.suffix.trans (List.suffix_cons _ _)

theorem Numeral.ink_le {limit : Option Nat} {v : Value} (h : Numeral limit v s rest) :
    v.ink + ink rest ≤ ink s := by
  obtain ⟨-, -, hfraction, hexponent⟩ := h
  rename_i negative whole fraction s₁ s₂ power
  have hnumber : (number negative whole fraction power).ink = 0 := by
    unfold number
    split <;> rfl
  have hsuffix : rest <:+ Decimal.withSign negative (whole ++ s₁) := by
    have htail := (hexponent.suffix.trans hfraction.suffix).trans (List.suffix_append whole s₁)
    cases negative with
    | false => exact htail
    | true => exact htail.trans (List.suffix_cons _ _)
  have := ink_le_of_suffix hsuffix
  omega

theorem Scalar.ink_le {limit : Option Nat} {v : Value} (h : Scalar (Numeral limit) v s rest) :
    v.ink + ink rest ≤ ink s := by
  cases h with
  | number h => exact h.ink_le
  | text h => exact h.ink_le
  | null => simp [ink_cons, Value.ink]; omega
  | truth => simp [ink_cons, Value.ink]; omega
  | falsity => simp [ink_cons, Value.ink]; omega

theorem Member.ink_le {P : Spelling Value} {m : String × Value}
    (hP : ∀ {s rest}, P m.2 s rest → m.2.ink + ink rest ≤ ink s) (h : Member P m s rest) :
    memberInk m + ink rest ≤ ink s := by
  obtain ⟨hname, hcolon, hblanks, hv⟩ := h
  have := hname.ink_le
  have := hcolon.ink_le
  have := hblanks.ink_le
  have := hP hv
  simp only [ink_cons] at *
  simp only [memberInk]
  simp at *
  omega

/-- Each item has a comma or a bracket behind it. -/
theorem Items.ink_le {α : Type} {close : Char} {P : Spelling α} {f : α → Nat} {xs : List α}
    (hclose : close ≠ ' ') (hP : ∀ {x s rest}, P x s rest → f x + ink rest ≤ ink s)
    (h : Items close P xs s rest) : (xs.map fun x => f x + 1).sum + ink rest ≤ ink s := by
  induction h with
  | last hblanks hx hend =>
    have := hblanks.ink_le
    have := hP hx
    have := hend.ink_le
    simp only [ink_cons, hclose, ite_false] at this
    simp only [List.map_cons, List.map_nil, List.sum_cons, List.sum_nil]
    omega
  | cons hblanks hx hcomma _ ih =>
    have := hblanks.ink_le
    have := hP hx
    have := hcomma.ink_le
    simp only [ink_cons] at this
    simp only [List.map_cons, List.sum_cons]
    simp at this
    omega

theorem Spells.ink_le {limit : Option Nat} {v : Value} (h : Spells (Numeral limit) v s rest) :
    v.ink + ink rest ≤ ink s := by
  -- the parts of a value nest less deep than the value itself
  have hdepth : ∀ n : Nat, ∀ {v s rest}, v.depth < n → Spells (Numeral limit) v s rest →
      v.ink + ink rest ≤ ink s := by
    intro n
    induction n with
    | zero =>
      intro v s rest hn
      omega
    | succ n ih =>
      intro v s rest hn h
      cases h with
      | scalar h => exact h.ink_le
      | emptyArray hblanks =>
        have := hblanks.ink_le
        simp only [ink_cons, Value.ink] at *
        omega
      | emptyObject hblanks =>
        have := hblanks.ink_le
        simp only [ink_cons, Value.ink] at *
        omega
      | array hitems =>
        rw [Value.depth_array hitems.ne_nil] at hn
        have hwithin := hitems.and (Value.itemsDepth_le_iff.1 (Nat.le_refl _))
        have := hwithin.ink_le (f := Value.ink) (by decide) fun h => ih (by omega) h.1
        show 0 + ink _ ≤ _
        rw [ink_cons]
        omega
      | object hmembers =>
        rw [Value.depth_object hmembers.ne_nil] at hn
        have hwithin := hmembers.and (Value.membersDepth_le_iff.1 (Nat.le_refl _))
        have := hwithin.ink_le (f := memberInk) (by decide) fun h => h.1.ink_le (ih (by omega))
        show 0 + ink _ ≤ _
        rw [ink_cons]
        omega
  exact hdepth _ (Nat.lt_succ_self _) h

/-! ## What a value starts with -/

theorem Numeral.head_ne {limit : Option Nat} {v : Value} {c : Char} (hdigit : c.isDigit = false)
    (hminus : c ≠ '-') : ¬Numeral limit v (c :: s) rest := by
  intro h
  obtain ⟨negative, d, tail, heq, hd⟩ := h.exists_digit
  cases negative with
  | false =>
    cases heq
    rw [hdigit] at hd
    cases hd
  | true =>
    cases heq
    exact hminus rfl

theorem not_spells_space {limit : Option Nat} {v : Value} :
    ¬Spells (Numeral limit) v (' ' :: s) rest := by
  intro h
  cases h with
  | scalar h =>
    cases h with
    | number h => exact Numeral.head_ne (by decide) (by decide) h
    | text h => cases h

theorem Spells.exists_text {limit : Option Nat} {v : Value}
    (h : Spells (Numeral limit) v ('"' :: s) rest) :
    ∃ t, v = .text t ∧ Quoted t ('"' :: s) rest := by
  cases h with
  | scalar h =>
    cases h with
    | number h => exact absurd h (Numeral.head_ne (by decide) (by decide))
    | text h => exact ⟨_, rfl, h⟩

theorem Spells.items_of_object {limit : Option Nat} {members : List (String × Value)}
    (hs : EndsBlanks s) (hclose : s.head? ≠ some '}')
    (h : Spells (Numeral limit) (.object members) ('{' :: s) rest) :
    Items '}' (Member (Spells (Numeral limit))) members s rest := by
  cases h with
  | scalar h =>
    cases h with
    | number h => exact absurd h (Numeral.head_ne (by decide) (by decide))
  | emptyObject hblanks =>
    cases hblanks.eq_self hs
    exact absurd rfl hclose
  | object hmembers => exact hmembers

end

end MetricLedger.Json
