import MetricLedger.Proofs.Json.Items

/-!
# Reading texts

A text is read as a value exactly if the grammar spells that value by it and the value does not nest
too deep. So a text has one value at most, and the grammar leaves nothing to choose.
-/

namespace MetricLedger.Json

open Text

/-! ## Scalars -/

section
variable {s s' rest : List Char}

theorem Numeral.depth {limit : Option Nat} {v : Value} (h : Numeral limit v s rest) :
    v.depth = 0 := by
  obtain ⟨-, -, -, -⟩ := h
  unfold number
  split <;> rfl

theorem readScalar_of_digit {negative : Bool} {c : Char} (hc : c.isDigit = true) :
    readScalar (Decimal.withSign negative (c :: s)) =
      readNumber (Decimal.withSign negative (c :: s)) := by
  have hne : ∀ d : Char, d.isDigit = false → c ≠ d := fun d => ne_of_isDigit hc
  cases negative with
  | false =>
    change readScalar (c :: s) = readNumber (c :: s)
    unfold readScalar
    split <;> simp_all
  | true =>
    change readScalar ('-' :: c :: s) = readNumber ('-' :: c :: s)
    unfold readScalar
    split <;> simp_all

/-- No scalar starts as an array or an object does. -/
theorem Scalar.starts {v : Value} (h : Scalar LedgerNumber v s rest) :
    Starts s ∧ s.head? ≠ some '[' ∧ s.head? ≠ some '\x7b' := by
  have hfixed : ∀ {c : Char} {tail : List Char}, c ∈ ['n', 't', 'f', 'N', 'I', '-', '"'] →
      Starts (c :: tail) ∧ (c :: tail).head? ≠ some '[' ∧ (c :: tail).head? ≠ some '\x7b' := by
    intro c tail hc
    simp only [List.mem_cons, List.not_mem_nil, or_false] at hc
    rcases hc with rfl | rfl | rfl | rfl | rfl | rfl | rfl
    all_goals exact ⟨⟨_, _, rfl, by decide, by decide, by decide⟩, by simp, by simp⟩
  cases h with
  | null => exact hfixed (by decide)
  | truth => exact hfixed (by decide)
  | falsity => exact hfixed (by decide)
  | text ht =>
    obtain ⟨tail, rfl⟩ := ht.exists_tail
    exact hfixed (by decide)
  | number h =>
    cases h with
    | nan => exact hfixed (by decide)
    | infinity => exact hfixed (by decide)
    | minusInfinity => exact hfixed (by decide)
    | numeral h =>
      obtain ⟨negative, c, tail, rfl, hc⟩ := h.exists_digit
      cases negative with
      | true => exact hfixed (by decide)
      | false =>
        have hne : ∀ d : Char, d.isDigit = false → c ≠ d := fun d => ne_of_isDigit hc
        refine ⟨⟨c, tail, rfl, ?_, hne _ (by decide), hne _ (by decide)⟩, ?_, ?_⟩
        · simp [isSpace, hne]
        · simp [Decimal.withSign, hne]
        · simp [Decimal.withSign, hne]

theorem reads_scalar : Reads readScalar (Scalar LedgerNumber) := by
  constructor
  · intro s v rest h
    unfold readScalar at h
    split at h
    case h_7 =>
      obtain ⟨⟨t, r⟩, ht, heq⟩ := Option.map_eq_some_iff.1 h
      cases heq
      exact .text (readString_eq_some_iff.1 ht)
    case h_8 => exact .number (.numeral (.of_readNumber h))
    all_goals cases h
    · exact .null
    · exact .truth
    · exact .falsity
    · exact .number .nan
    · exact .number .infinity
    · exact .number .minusInfinity
  · intro s v rest h hrest
    cases h with
    | null => rfl
    | truth => rfl
    | falsity => rfl
    | number h =>
      cases h with
      | nan => rfl
      | infinity => rfl
      | minusInfinity => rfl
      | numeral h =>
        have hread := h.readNumber_eq hrest
        obtain ⟨negative, c, tail, rfl, hc⟩ := h.exists_digit
        rw [readScalar_of_digit hc, hread]
    | text ht =>
      obtain ⟨tail, rfl⟩ := ht.exists_tail
      rw [readScalar, readString_eq_some_iff.2 ht]
      rfl
  · intro s v rest h
    exact h.starts.1

theorem Scalar.depth {v : Value} (h : Scalar LedgerNumber v s rest) : v.depth = 0 := by
  cases h with
  | number h =>
    cases h with
    | numeral h => exact h.depth
    | nan => rfl
    | infinity => rfl
    | minusInfinity => rfl
  | null => rfl
  | truth => rfl
  | falsity => rfl
  | text => rfl

theorem Scalar.readLeaf_eq {v : Value} (h : Scalar LedgerNumber v s rest)
    (hrest : EndsNumber rest) : readLeaf s = some (v, rest) := by
  have hstarts := h.starts
  have hread := reads_scalar.complete h hrest
  unfold readLeaf
  split <;> simp_all

theorem Scalar.readValue_eq {item : Reader Value} {v : Value} (h : Scalar LedgerNumber v s rest)
    (hrest : EndsNumber rest) : readValue item s = some (v, rest) := by
  have hstarts := h.starts
  have hread := reads_scalar.complete h hrest
  unfold readValue
  split <;> simp_all

/-! ## Values -/

theorem Spells.starts {v : Value} (h : Spells LedgerNumber v s rest) : Starts s := by
  cases h with
  | scalar h => exact h.starts.1
  | emptyArray => exact ⟨_, _, rfl, by decide, by decide, by decide⟩
  | emptyObject => exact ⟨_, _, rfl, by decide, by decide, by decide⟩
  | array => exact ⟨_, _, rfl, by decide, by decide, by decide⟩
  | object => exact ⟨_, _, rfl, by decide, by decide, by decide⟩

def SpellsWithin (n : Nat) : Spelling Value := fun v s rest =>
  Spells LedgerNumber v s rest ∧ v.depth ≤ n

theorem isClose_bracket : IsClose ']' := .inl rfl

theorem isClose_brace : IsClose '\x7d' := .inr rfl

theorem Scalar.within {v : Value} (h : Scalar LedgerNumber v s rest) (n : Nat) :
    SpellsWithin n v s rest := ⟨.scalar h, h.depth ▸ Nat.zero_le n⟩

section
variable {n : Nat} {items : List Value} {members : List (String × Value)}

theorem array_within_iff :
    SpellsWithin (n + 1) (.array items) ('[' :: s) rest ↔
      items = [] ∧ Blanks s (']' :: rest) ∨ Items ']' (SpellsWithin n) items s rest := by
  constructor
  · rintro ⟨h, hdepth⟩
    cases h with
    | scalar h => exact absurd rfl h.starts.2.1
    | emptyArray hblanks => exact .inl ⟨rfl, hblanks⟩
    | array hitems =>
      rw [Value.depth_array hitems.ne_nil, Nat.add_le_add_iff_right, Value.itemsDepth_le_iff]
        at hdepth
      exact .inr (hitems.and hdepth)
  · rintro (⟨rfl, hblanks⟩ | hitems)
    · exact ⟨.emptyArray hblanks, Nat.zero_le _⟩
    · refine ⟨.array (hitems.imp And.left), ?_⟩
      rw [Value.depth_array hitems.ne_nil, Nat.add_le_add_iff_right, Value.itemsDepth_le_iff]
      exact hitems.forall_mem And.right

theorem object_within_iff :
    SpellsWithin (n + 1) (.object members) ('\x7b' :: s) rest ↔
      members = [] ∧ Blanks s ('\x7d' :: rest) ∨
        Items '\x7d' (Member (SpellsWithin n)) members s rest := by
  constructor
  · rintro ⟨h, hdepth⟩
    cases h with
    | scalar h => exact absurd rfl h.starts.2.2
    | emptyObject hblanks => exact .inl ⟨rfl, hblanks⟩
    | object hmembers =>
      rw [Value.depth_object hmembers.ne_nil, Nat.add_le_add_iff_right,
        Value.membersDepth_le_iff] at hdepth
      refine .inr ((hmembers.and hdepth).imp ?_)
      rintro _ _ _ ⟨⟨hname, hcolon, hblanks, hv⟩, hle⟩
      exact .mk hname hcolon hblanks ⟨hv, hle⟩
  · rintro (⟨rfl, hblanks⟩ | hmembers)
    · exact ⟨.emptyObject hblanks, Nat.zero_le _⟩
    · refine ⟨.object (hmembers.imp ?_), ?_⟩
      · rintro _ _ _ ⟨hname, hcolon, hblanks, hv⟩
        exact .mk hname hcolon hblanks hv.1
      · rw [Value.depth_object hmembers.ne_nil, Nat.add_le_add_iff_right,
          Value.membersDepth_le_iff]
        refine hmembers.forall_mem (Q := fun m => m.2.depth ≤ n) ?_
        rintro _ _ _ ⟨-, -, -, hv⟩
        exact hv.2

end

theorem reads_leaf : Reads readLeaf (SpellsWithin 0) := by
  constructor
  · intro s v rest h
    unfold readLeaf at h
    split at h
    · obtain ⟨r, hr, heq⟩ := Option.map_eq_some_iff.1 h
      cases heq
      exact ⟨.emptyArray ((readClose_eq_some_iff isClose_bracket).1 hr), le_rfl⟩
    · obtain ⟨r, hr, heq⟩ := Option.map_eq_some_iff.1 h
      cases heq
      exact ⟨.emptyObject ((readClose_eq_some_iff isClose_brace).1 hr), le_rfl⟩
    · exact (reads_scalar.sound h).within 0
  · rintro s v rest ⟨h, hdepth⟩ hrest
    cases h with
    | scalar h => exact h.readLeaf_eq hrest
    | emptyArray hblanks => rw [readLeaf, (readClose_eq_some_iff isClose_bracket).2 hblanks]; rfl
    | emptyObject hblanks => rw [readLeaf, (readClose_eq_some_iff isClose_brace).2 hblanks]; rfl
    | array hitems => simp [Value.depth_array hitems.ne_nil] at hdepth
    | object hmembers => simp [Value.depth_object hmembers.ne_nil] at hdepth
  · exact fun h => h.1.starts

theorem reads_nested {item : Reader Value} {n : Nat} (hitem : Reads item.run (SpellsWithin n)) :
    Reads (readValue item) (SpellsWithin (n + 1)) := by
  constructor
  · intro s v rest h
    unfold readValue at h
    split at h
    · obtain ⟨⟨items, r⟩, hr, heq⟩ := Option.map_eq_some_iff.1 h
      cases heq
      exact array_within_iff.2 ((readBody_eq_some_iff isClose_bracket hitem).1 hr)
    · obtain ⟨⟨members, r⟩, hr, heq⟩ := Option.map_eq_some_iff.1 h
      cases heq
      exact object_within_iff.2 ((readBody_eq_some_iff isClose_brace (reads_member hitem)).1 hr)
    · exact (reads_scalar.sound h).within (n + 1)
  · intro s v rest h hrest
    cases h.1 with
    | scalar hscalar => exact hscalar.readValue_eq hrest
    | emptyArray =>
      have hbody := array_within_iff.1 h
      rw [readValue, (readBody_eq_some_iff isClose_bracket hitem).2 hbody]
      rfl
    | array =>
      have hbody := array_within_iff.1 h
      rw [readValue, (readBody_eq_some_iff isClose_bracket hitem).2 hbody]
      rfl
    | emptyObject =>
      have hbody := object_within_iff.1 h
      rw [readValue, (readBody_eq_some_iff isClose_brace (reads_member hitem)).2 hbody]
      rfl
    | object =>
      have hbody := object_within_iff.1 h
      rw [readValue, (readBody_eq_some_iff isClose_brace (reads_member hitem)).2 hbody]
      rfl
  · exact fun h => h.1.starts

theorem reads_value (n : Nat) : Reads (value n).run (SpellsWithin n) := by
  induction n with
  | zero => exact reads_leaf
  | succ n ih => exact reads_nested ih

/-! ## Texts -/

theorem blanks_nil_iff : Blanks s [] ↔ skip s = [] := by
  constructor
  · intro h
    apply h.skip_eq
    rintro _ ⟨⟩
  · intro h
    exact h ▸ blanks_skip s

/-- A text is read as a value exactly if the value is spelled so and does not nest too deep. -/
theorem ofChars?_eq_some_iff {n : Nat} {v : Value} :
    ofChars? n s = some v ↔ IsText LedgerNumber v s ∧ v.depth ≤ n := by
  constructor
  · intro h
    unfold ofChars? at h
    split at h
    · rename_i w r hread
      split at h
      · rename_i hskip
        cases h
        obtain ⟨hspells, hdepth⟩ := (reads_value n).sound hread
        exact ⟨.mk (blanks_skip s) hspells (blanks_nil_iff.2 hskip), hdepth⟩
      · cases h
    · cases h
  · rintro ⟨⟨hblanks, hspells, hend⟩, hdepth⟩
    have hends := hend.endsNumber (by rintro _ ⟨⟩)
    have hread := (reads_value n).complete ⟨hspells, hdepth⟩ hends
    rw [← hspells.starts.skip_eq hblanks] at hread
    rw [ofChars?, hread]
    simp [blanks_nil_iff.1 hend]

end

end MetricLedger.Json
