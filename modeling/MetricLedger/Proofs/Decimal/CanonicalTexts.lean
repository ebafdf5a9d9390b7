import MetricLedger.Proofs.Decimal.Spelled

/-!
# The canonical text of a rate

Of all texts with the same value the canonical one is the tidy one: no zero stands in front that is
not needed, and none at the end of the places. It is a rate again, whatever was rounded, and two
rates have the same canonical text exactly if they are the same once rounded.
-/

namespace MetricLedger

open Text

/-! ## The first digit -/

theorem asciiValue_lt_pow {digits : List Char} (h : Digits digits) :
    asciiValue digits < 10 ^ digits.length := by
  induction digits with
  | nil => exact Nat.one_pos
  | cons c rest ih =>
    obtain ⟨hc, hrest⟩ := List.forall_mem_cons.1 h
    have hvalue : asciiValue (c :: rest) = 10 ^ rest.length * asciiValue [c] + asciiValue rest :=
      asciiValue_append [c] rest
    have hone : asciiValue [c] = c.toNat - 0x30 := Nat.zero_add _
    have hdigit : asciiValue [c] ≤ 9 := by
      have := toNat_of_isDigit hc
      omega
    have hmul := Nat.mul_le_mul_left (10 ^ rest.length) hdigit
    have hlt := ih hrest
    rw [hvalue, List.length_cons, Nat.pow_succ]
    omega

theorem head?_numeral {n : Nat} (hn : n ≠ 0) : (numeral n).head? ≠ some '0' := by
  intro hhead
  obtain ⟨rest, hrest⟩ := List.head?_eq_some_iff.1 hhead
  have hvalue : asciiValue rest = n := by
    rw [← asciiValue_zero_cons, ← hrest, asciiValue_numeral]
  have hlt : asciiValue rest < 10 ^ rest.length := by
    apply asciiValue_lt_pow
    intro c hc
    exact digits_numeral n c (hrest ▸ List.mem_cons_of_mem _ hc)
  by_cases hnil : rest = []
  · rw [hnil] at hvalue
    exact hn hvalue.symm
  · have hlen : rest.length < (numeral n).length := by
      rw [hrest, List.length_cons]
      omega
    have := pow_le_of_lt_length_numeral hlen (List.length_pos_iff.2 hnil)
    omega

namespace Decimal

/-- Plain notation starts with a zero only if all of the number stands after the point. -/
theorem positional_zero_cons {m : Nat} {e : Int} (hm : m ≠ 0)
    (h : (positional m e).head? = some '0') : ∃ rest, positional m e = '0' :: '.' :: rest := by
  have hne : numeral m ≠ [] := List.length_pos_iff.1 (length_numeral_pos m)
  have hhead := head?_numeral hm
  unfold positional placePoint at h ⊢
  simp only at h ⊢
  split
  · exact ⟨_, rfl⟩
  · rename_i hpoint
    rw [if_neg hpoint] at h
    split at h
    · rw [List.head?_append_of_ne_nil _ hne] at h
      exact absurd h hhead
    · rw [List.head?_append_of_ne_nil, List.head?_take, if_neg (by omega)] at h
      · exact absurd h hhead
      · rw [ne_eq, List.take_eq_nil_iff]
        simp only [hne, or_false]
        omega

/-! ## The shortest form -/

section
variable {m m' : Nat} {e e' : Int}

theorem IsReduced.eq_of_le (h : IsReduced m e) (h' : IsReduced m' e') (hle : e ≤ e')
    (heq : (m' : ℚ) * 10 ^ e' = m * 10 ^ e) : m' = m ∧ e' = e := by
  obtain ⟨zeros, rfl⟩ := Int.le.dest hle
  have hm : m' * 10 ^ zeros = m := by
    rw [zpow_add₀ (by norm_num), mul_comm ((10 : ℚ) ^ e), ← mul_assoc, zpow_natCast] at heq
    exact_mod_cast mul_right_cancel₀ (pow_pos_ten e).ne' heq
  cases zeros with
  | zero =>
    rw [Nat.pow_zero, Nat.mul_one] at hm
    exact ⟨hm, by simp⟩
  | succ zeros =>
    -- the zeros would stand at the end of the other one
    have hmod : m % 10 = 0 := by
      rw [← hm, Nat.pow_succ, ← Nat.mul_assoc, Nat.mul_mod_left]
    have hpos : 0 < 10 ^ (zeros + 1) := Nat.pow_pos (by decide)
    have hzero := (h.2.resolve_left (absurd hmod)).1
    have hexp := (h.2.resolve_left (absurd hmod)).2
    rcases h'.2 with hmod' | ⟨-, he'⟩
    · rcases Nat.mul_eq_zero.1 (hm.trans hzero) with rfl | hpow
      · exact absurd rfl hmod'
      · omega
    · omega

theorem IsReduced.eq_of_value (h : IsReduced m e) (h' : IsReduced m' e')
    (heq : (m' : ℚ) * 10 ^ e' = m * 10 ^ e) : m' = m ∧ e' = e := by
  rcases Int.le_total e e' with hle | hle
  · exact h.eq_of_le h' hle heq
  · obtain ⟨rfl, rfl⟩ := h'.eq_of_le h hle heq.symm
    exact ⟨rfl, rfl⟩

end

end Decimal

namespace Rate

open Decimal (IsReduced IsShort RoundsTo positional)

/-- No zero stands in front that is not needed, and none at the end of the places. -/
structure IsTidy (whole fraction : List Char) : Prop where
  whole : whole = ['0'] ∨ whole.head? ≠ some '0'
  fraction : fraction.getLast? ≠ some '0'

def Denotes (text : String) (q : ℚ) : Prop :=
  ∃ whole fraction, Spells text whole fraction ∧ denoted whole fraction = q

theorem Denotes.unique {text : String} {q r : ℚ} (h : Denotes text q) (h' : Denotes text r) :
    r = q := by
  obtain ⟨whole, fraction, hs, rfl⟩ := h
  obtain ⟨whole', fraction', hs', rfl⟩ := h'
  obtain ⟨rfl, rfl⟩ := hs.unique hs'
  rfl

section
variable {m m' : Nat} {e e' : Int}

theorem exists_spells_positional (m : Nat) (e : Int) :
    ∃ whole fraction, Spells (String.ofList (positional m e)) whole fraction ∧
      fraction.length = (-e).toNat ∧ asciiValue (whole ++ fraction) = m * 10 ^ e.toNat := by
  obtain ⟨whole, fraction, htext, hne, hw, hf, hlen, hvalue⟩ :=
    Decimal.positional_eq_fixedPoint m e
  exact ⟨whole, fraction, ⟨String.toList_ofList.trans htext, hne, hw, hf⟩, hlen, hvalue⟩

theorem denotes_positional (m : Nat) (e : Int) :
    Denotes (String.ofList (positional m e)) (m * 10 ^ e) := by
  obtain ⟨whole, fraction, hs, hlen, hvalue⟩ := exists_spells_positional m e
  refine ⟨whole, fraction, hs, ?_⟩
  rw [denoted_eq, hvalue, hlen]
  push_cast
  rw [← zpow_natCast, mul_assoc, ← zpow_add₀ (by norm_num)]
  congr 2
  omega

theorem isTidy_positional (h : IsReduced m e) {whole fraction : List Char}
    (hs : Spells (String.ofList (positional m e)) whole fraction) : IsTidy whole fraction := by
  obtain ⟨whole', fraction', hs', hlen, hvalue⟩ := exists_spells_positional m e
  obtain ⟨rfl, rfl⟩ := hs.unique hs'
  have htext := hs.text
  rw [String.toList_ofList] at htext
  rcases h.2 with hmod | ⟨rfl, rfl⟩
  · constructor
    · by_cases hhead : whole'.head? = some '0'
      · left
        have hm : m ≠ 0 := by
          rintro rfl
          exact hmod rfl
        have hfirst : (positional m e).head? = some '0' := by
          rw [htext, fixedPoint, List.head?_append_of_ne_nil _ hs.nonempty, hhead]
        obtain ⟨rest, hrest⟩ := Decimal.positional_zero_cons hm hfirst
        have hwhole : (fixedPoint whole' fraction').takeWhile Char.isDigit = whole' :=
          takeWhile_fixedPoint hs.whole
        rw [← hwhole, ← htext, hrest]
        rfl
      · exact .inr hhead
    · intro hlast
      obtain ⟨init, rfl⟩ := List.getLast?_eq_some_iff.1 hlast
      rw [List.length_append, List.length_singleton] at hlen
      rw [← List.append_assoc, asciiValue_append, show e.toNat = 0 by omega] at hvalue
      rw [show asciiValue ['0'] = 0 from rfl, List.length_singleton] at hvalue
      omega
  · obtain rfl : fraction' = [] := List.length_eq_zero_iff.1 hlen
    rw [fixedPoint_nil] at htext
    exact ⟨.inl htext.symm, by simp⟩

end

/-! ## Rates -/

theorem denotes_of_ofText {text : String} {d : Decimal} (h : ofText text = .ok d) :
    ∃ q, d.value? = some q ∧ Denotes text q := by
  rcases ofText_cases text with ⟨-, herror⟩ | ⟨whole, fraction, hs, hcases⟩
  · rw [h] at herror
    cases herror
  · rcases hcases with ⟨-, herror⟩ | ⟨-, -, herror⟩ | ⟨-, -, d', hd', hvalue⟩
    · rw [h] at herror
      cases herror
    · rw [h] at herror
      cases herror
    · cases h.symm.trans hd'
      exact ⟨_, hvalue, whole, fraction, hs, rfl⟩

/-- The canonical text is the plain notation of the shortest form of the rounded value. -/
theorem exists_reduced {text : String} {d : Decimal} (h : ofText text = .ok d) :
    ∃ m e q settled, IsReduced m e ∧
      d.canonicalText? = some (String.ofList (positional m e)) ∧
      ofText (String.ofList (positional m e)) = .ok settled ∧
      settled.canonicalText? = some (String.ofList (positional m e)) ∧
      Denotes text q ∧ RoundsTo q (m * 10 ^ e) := by
  obtain ⟨q, hq, hdenotes⟩ := denotes_of_ofText h
  obtain ⟨whole, fraction, htext, hne, hw, hf, hlen, hbig, rfl⟩ := ofText_eq_ok_iff.1 h
  obtain ⟨m, e, hcanonical, hreduced, he, hunits⟩ := canonical?_eq_some hlen hbig
  have htext := congrArg (Option.map fun c => String.ofList c.plainChars) hcanonical
  obtain ⟨settled, hsettled, -, hagain⟩ :=
    ofText_plain hreduced he (hunits ▸ rounded_le_greatest hbig)
  refine ⟨m, e, q, settled, hreduced, htext, hsettled, ?_, hdenotes, ?_⟩
  · exact congrArg (Option.map fun c => String.ofList c.plainChars) hagain
  · obtain ⟨q', r, hq', hr, hrounds⟩ :=
      roundsTo_of_canonicalText h htext (decimal_ofText? hsettled)
    obtain ⟨r', hr', hdenotes'⟩ := denotes_of_ofText hsettled
    cases hq.symm.trans hq'
    cases hr.symm.trans hr'
    rwa [← (denotes_positional m e).unique hdenotes']

/-- The canonical text of a rate is a rate with that same canonical text. It denotes the value of
the rate rounded to 28 digits, without needless zeros, and it is the canonical text of just those
rates whose value is rounded to the same one. -/
theorem canonicalText_of_rate {text : String} {d : Decimal} (h : ofText text = .ok d) :
    ∃ canonical settled whole fraction q,
      d.canonicalText? = some canonical ∧ ofText canonical = .ok settled ∧
      settled.canonicalText? = some canonical ∧
      Spells canonical whole fraction ∧ IsTidy whole fraction ∧
      Denotes text q ∧ RoundsTo q (denoted whole fraction) ∧
      (denoted whole fraction = q ↔ IsShort q) ∧
      ∀ other d' q', ofText other = .ok d' → Denotes other q' →
        (d'.canonicalText? = some canonical ↔ RoundsTo q' (denoted whole fraction)) := by
  obtain ⟨m, e, q, settled, hreduced, hcanonical, hsettled, hagain, hq, hrounds⟩ :=
    exists_reduced h
  obtain ⟨whole, fraction, hs, hvalue⟩ := denotes_positional m e
  refine ⟨_, settled, whole, fraction, q, hcanonical, hsettled, hagain, hs,
    isTidy_positional hreduced hs, hq, ?_⟩
  rw [hvalue]
  refine ⟨hrounds, hrounds.eq_iff_isShort, ?_⟩
  intro other d' q' h' hq'
  obtain ⟨m', e', q'', -, hreduced', hcanonical', -, -, hq'', hrounds'⟩ := exists_reduced h'
  obtain rfl := hq''.unique hq'
  rw [hcanonical', Option.some_inj]
  constructor
  · intro heq
    have hsame := denotes_positional m' e'
    rw [heq] at hsame
    rwa [hsame.unique (denotes_positional m e)]
  · intro hrounds''
    obtain ⟨rfl, rfl⟩ := hreduced.eq_of_value hreduced' (hrounds''.unique hrounds').symm
    rfl

/-- The half is rounded up, to the even side, and the carry runs through all the nines. -/
theorem canonicalText_of_nines :
    ofText "99999999999.999999999999999995" =
      .ok (.finite false 99999999999999999999999999995 (-18)) ∧
    ∃ canonical settled whole fraction q,
      (Decimal.finite false 99999999999999999999999999995 (-18)).canonicalText? = some canonical ∧
      ofText canonical = .ok settled ∧ settled.canonicalText? = some canonical ∧
      Spells canonical whole fraction ∧ IsTidy whole fraction ∧
      Denotes "99999999999.999999999999999995" q ∧ RoundsTo q (denoted whole fraction) ∧
      (denoted whole fraction = q ↔ IsShort q) ∧
      ∀ other d' q', ofText other = .ok d' → Denotes other q' →
        (d'.canonicalText? = some canonical ↔ RoundsTo q' (denoted whole fraction)) := by
  have h : ofText "99999999999.999999999999999995" =
      .ok (.finite false 99999999999999999999999999995 (-18)) := by decide +kernel
  exact ⟨h, canonicalText_of_rate h⟩

end Rate

end MetricLedger
