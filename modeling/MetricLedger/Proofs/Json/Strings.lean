import Mathlib.Tactic.SplitIfs
import MetricLedger.Proofs.Json.Grammar

/-!
# Reading strings

A string is read in two steps: its codes up to the closing quote, then its characters, where two
codes may make one. What is read is just what the grammar spells.
-/

namespace MetricLedger.Json

open Text

/-! ## Codes -/

inductive Code : Spelling Nat
  | plain {c : Char} {rest : List Char} :
    0x20 ≤ c.toNat → c ≠ '"' → c ≠ '\\' → Code c.toNat (c :: rest) rest
  | short {e c : Char} {rest : List Char} :
    (e, c) ∈ shortEscapes → Code c.toNat ('\\' :: e :: rest) rest
  | unit {a b c d : Char} {n : Nat} {rest : List Char} :
    unit? a b c d = some n → Code n ('\\' :: 'u' :: a :: b :: c :: d :: rest) rest

inductive Codes : Spelling (List Nat)
  | nil {rest : List Char} : Codes [] ('"' :: rest) rest
  | cons {n : Nat} {codes : List Nat} {s s' rest : List Char} :
    Code n s s' → Codes codes s' rest → Codes (n :: codes) s rest

theorem shortEscape_of_escapeCode? {e : Char} {n : Nat} (h : escapeCode? e = some n) :
    (e, Char.ofNat n) ∈ shortEscapes ∧ (Char.ofNat n).toNat = n := by
  unfold escapeCode? at h
  split at h
  case h_9 => cases h
  all_goals
    cases h
    decide

theorem escapeCode?_of_shortEscape {e c : Char} (h : (e, c) ∈ shortEscapes) :
    escapeCode? e = some c.toNat := by
  simp only [shortEscapes, List.mem_cons, Prod.mk.injEq, List.not_mem_nil, or_false] at h
  rcases h with h | h | h | h | h | h | h | h
  all_goals
    obtain ⟨rfl, rfl⟩ := h
    rfl

section
variable {s rest : List Char} {codes : List Nat}

theorem Codes.of_stringCodes (h : stringCodes s = some (codes, rest)) : Codes codes s rest := by
  fun_induction stringCodes s generalizing codes with
  | case1 => cases h
  | case2 tail =>
    cases h
    exact .nil
  | case3 a b c d tail ih =>
    simp only [bind, Option.bind_eq_some_iff, pure, Option.some.injEq, Prod.mk.injEq] at h
    obtain ⟨n, hn, ⟨codes', r⟩, hr, rfl, rfl⟩ := h
    exact .cons (.unit hn) (ih hr)
  | case4 e tail _ ih =>
    simp only [bind, Option.bind_eq_some_iff, pure, Option.some.injEq, Prod.mk.injEq] at h
    obtain ⟨n, hn, ⟨codes', r⟩, hr, rfl, rfl⟩ := h
    obtain ⟨hmem, hcode⟩ := shortEscape_of_escapeCode? hn
    exact .cons (hcode ▸ .short hmem) (ih hr)
  | case5 => cases h
  | case6 c tail hquote _ _ hc ih =>
    simp only [bind, Option.bind_eq_some_iff, pure, Option.some.injEq, Prod.mk.injEq] at h
    obtain ⟨⟨codes', r⟩, hr, rfl, rfl⟩ := h
    rw [not_or, Nat.not_lt] at hc
    exact .cons (.plain hc.1 hquote hc.2) (ih hr)

theorem Codes.stringCodes_eq (h : Codes codes s rest) : stringCodes s = some (codes, rest) := by
  induction h with
  | nil => rfl
  | cons hcode _ ih =>
    cases hcode with
    | plain hlow hquote hslash =>
      unfold stringCodes
      split <;> simp_all
    | @short e c tail hescape =>
      have hcode := escapeCode?_of_shortEscape hescape
      have hu : e ≠ 'u' := by
        rintro rfl
        cases hcode
      unfold stringCodes
      split
      case h_5 hescaped heq =>
        cases heq
        exact absurd rfl (hescaped _ _ rfl)
      all_goals simp_all
    | unit hunit => simp [stringCodes, hunit, ih]

theorem stringCodes_eq_some_iff : stringCodes s = some (codes, rest) ↔ Codes codes s rest :=
  ⟨.of_stringCodes, Codes.stringCodes_eq⟩

end

/-! ## Characters -/

theorem toNat_not_surrogate (c : Char) :
    ¬(0xd800 ≤ c.toNat ∧ c.toNat ≤ 0xdbff) ∧ ¬(0xdc00 ≤ c.toNat ∧ c.toNat ≤ 0xdfff) := by
  have hvalid : c.toNat < 0xd800 ∨ 0xdfff < c.toNat ∧ c.toNat < 0x110000 := c.valid
  omega

theorem joinSurrogates_toNat (c : Char) (codes : List Nat) :
    joinSurrogates (c.toNat :: codes) = (joinSurrogates codes).map (c :: ·) := by
  obtain ⟨hhigh, hlow⟩ := toNat_not_surrogate c
  rw [joinSurrogates.eq_def]
  simp only
  rw [if_neg hhigh, if_neg hlow, Char.ofNat_toNat]

theorem joinSurrogates_pair {high low : Nat} (hhigh : 0xd800 ≤ high ∧ high ≤ 0xdbff)
    (hlow : 0xdc00 ≤ low ∧ low ≤ 0xdfff) (codes : List Nat) :
    joinSurrogates (high :: low :: codes) = (joinSurrogates codes).map
      (Char.ofNat (0x10000 + (high - 0xd800) * 0x400 + (low - 0xdc00)) :: ·) := by
  rw [joinSurrogates, if_pos hhigh, if_pos hlow]

theorem joinSurrogates_units16 (c : Char) (codes : List Nat) :
    joinSurrogates (units16 c ++ codes) = (joinSurrogates codes).map (c :: ·) := by
  unfold units16
  split
  · exact joinSurrogates_toNat c codes
  · have hvalid : c.toNat < 0xd800 ∨ 0xdfff < c.toNat ∧ c.toNat < 0x110000 := c.valid
    have hdiv := Nat.div_add_mod (c.toNat - 0x10000) 0x400
    have hmod := Nat.mod_lt (c.toNat - 0x10000) (show 0 < 0x400 by decide)
    change joinSurrogates (_ :: _ :: codes) = _
    rw [joinSurrogates_pair (by omega) (by omega)]
    have hcode : 0x10000 + (0xd800 + (c.toNat - 0x10000) / 0x400 - 0xd800) * 0x400 +
        (0xdc00 + (c.toNat - 0x10000) % 0x400 - 0xdc00) = c.toNat := by omega
    rw [hcode, Char.ofNat_toNat]

theorem toNat_ofNat {n : Nat} (h : n < 0xd800 ∨ 0xdfff < n ∧ n < 0x110000) :
    (Char.ofNat n).toNat = n := by
  rw [Char.ofNat, dif_pos h]
  rfl

theorem units16_pair {high low : Nat} (hhigh : 0xd800 ≤ high ∧ high ≤ 0xdbff)
    (hlow : 0xdc00 ≤ low ∧ low ≤ 0xdfff) :
    units16 (Char.ofNat (0x10000 + (high - 0xd800) * 0x400 + (low - 0xdc00))) = [high, low] := by
  rw [units16, toNat_ofNat (by omega), if_neg (by omega)]
  have hhigh' : 0xd800 + (0x10000 + (high - 0xd800) * 0x400 + (low - 0xdc00) - 0x10000) / 0x400 =
    high := by omega
  have hlow' : 0xdc00 + (0x10000 + (high - 0xd800) * 0x400 + (low - 0xdc00) - 0x10000) % 0x400 =
    low := by omega
  rw [hhigh', hlow']

/-! ## Strings -/

section
variable {s s' rest : List Char} {codes : List Nat} {chars : List Char}

theorem Codes.append_units {units : List Nat} (h : Units units s s') (hrest : Codes codes s' rest) :
    Codes (units ++ codes) s rest := by
  induction h with
  | nil => exact hrest
  | cons hunit _ ih => exact .cons (.unit hunit) (ih hrest)

theorem Letters.exists_codes (h : Letters chars s rest) :
    ∃ codes, Codes codes s rest ∧ joinSurrogates codes = some chars := by
  induction h with
  | nil => exact ⟨[], .nil, rfl⟩
  | @cons c chars s s' rest hletter _ ih =>
    obtain ⟨codes, hcodes, hjoin⟩ := ih
    cases hletter with
    | plain hlow hquote hslash =>
      refine ⟨c.toNat :: codes, .cons (.plain hlow hquote hslash) hcodes, ?_⟩
      rw [joinSurrogates_toNat, hjoin]
      rfl
    | short hescape =>
      refine ⟨c.toNat :: codes, .cons (.short hescape) hcodes, ?_⟩
      rw [joinSurrogates_toNat, hjoin]
      rfl
    | units hunits =>
      refine ⟨units16 c ++ codes, .append_units hunits hcodes, ?_⟩
      rw [joinSurrogates_units16, hjoin]
      rfl

theorem hexValue?_lt {c : Char} {n : Nat} (h : hexValue? c = some n) : n < 16 := by
  unfold hexValue? at h
  split at h
  · rename_i hc
    have := toNat_of_isDigit hc
    cases h
    omega
  · split at h
    · rename_i hc
      have : c.toNat ≤ 0x66 := hc.2
      cases h
      omega
    · split at h
      · rename_i hc
        have : c.toNat ≤ 0x46 := hc.2
        cases h
        omega
      · cases h

theorem unit?_lt {a b c d : Char} {n : Nat} (h : unit? a b c d = some n) : n < 0x10000 := by
  simp only [unit?, bind, Option.bind_eq_some_iff, pure, Option.some.injEq] at h
  obtain ⟨w, hw, x, hx, y, hy, z, hz, rfl⟩ := h
  have := hexValue?_lt hw
  have := hexValue?_lt hx
  have := hexValue?_lt hy
  have := hexValue?_lt hz
  omega

/-- A code that is no surrogate is the code of a character. -/
theorem Code.letter {n : Nat} (h : Code n s rest)
    (hhigh : ¬(0xd800 ≤ n ∧ n ≤ 0xdbff)) (hlow : ¬(0xdc00 ≤ n ∧ n ≤ 0xdfff)) :
    Letter (Char.ofNat n) s rest := by
  cases h with
  | plain hcontrol hquote hslash =>
    rw [Char.ofNat_toNat]
    exact .plain hcontrol hquote hslash
  | short hescape =>
    rw [Char.ofNat_toNat]
    exact .short hescape
  | unit hunit =>
    have hlt := unit?_lt hunit
    apply Letter.units
    rw [units16, toNat_ofNat (by omega), if_pos hlt]
    exact .cons hunit .nil

/-- A surrogate is never the code of a character. -/
theorem Code.units_cons {n : Nat} {units : List Nat} (h : Code n s s')
    (hn : 0xd800 ≤ n ∧ n ≤ 0xdfff) (hrest : Units units s' rest) : Units (n :: units) s rest := by
  cases h with
  | @plain c =>
    have := toNat_not_surrogate c
    omega
  | @short _ c =>
    have := toNat_not_surrogate c
    omega
  | unit hunit => exact .cons hunit hrest

theorem Codes.letters (h : Codes codes s rest) (hjoin : joinSurrogates codes = some chars) :
    Letters chars s rest := by
  fun_induction joinSurrogates codes generalizing s chars with
  | case1 =>
    cases hjoin
    cases h
    exact .nil
  | case2 high hhigh low codes hlow ih =>
    obtain ⟨chars, hchars, rfl⟩ := Option.map_eq_some_iff.1 hjoin
    cases h with
    | cons hcode h =>
      cases h with
      | cons hcode' hcodes =>
        have hlast := hcode'.units_cons (by omega) .nil
        have hunits := hcode.units_cons (by omega) hlast
        rw [← units16_pair hhigh hlow] at hunits
        exact .cons (.units hunits) (ih hcodes hchars)
  | case3 => cases hjoin
  | case4 => cases hjoin
  | case5 => cases hjoin
  | case6 code codes hhigh hlow ih =>
    obtain ⟨chars, hchars, rfl⟩ := Option.map_eq_some_iff.1 hjoin
    cases h with
    | cons hcode hcodes => exact .cons (hcode.letter hhigh hlow) (ih hcodes hchars)

theorem readString_eq_some_iff {t : String} :
    readString s = some (t, rest) ↔ Quoted t s rest := by
  constructor
  · intro h
    unfold readString at h
    split at h
    · simp only [bind, Option.bind_eq_some_iff, pure, Option.some.injEq, Prod.mk.injEq] at h
      obtain ⟨⟨codes, r⟩, hcodes, chars, hjoin, rfl, rfl⟩ := h
      exact .mk ((stringCodes_eq_some_iff.1 hcodes).letters hjoin)
    · cases h
  · rintro ⟨h⟩
    obtain ⟨codes, hcodes, hjoin⟩ := h.exists_codes
    simp [readString, hcodes.stringCodes_eq, hjoin]

end

/-! ## Written strings -/

theorem hexValue?_digitChar {n : Nat} (h : n < 16) : hexValue? (Nat.digitChar n) = some n := by
  revert n
  decide

theorem unit?_hex {n : Nat} (h : n < 0x10000) :
    ∃ a b c d, hex 4 n = [a, b, c, d] ∧ unit? a b c d = some n := by
  refine ⟨_, _, _, _, rfl, ?_⟩
  have hdigit : ∀ m, hexValue? (Nat.digitChar (m % 16)) = some (m % 16) := fun m =>
    hexValue?_digitChar (Nat.mod_lt m (by decide))
  simp only [unit?, hdigit, bind, Option.bind_some, pure, Option.some.injEq]
  omega

theorem units16_lt {c : Char} : ∀ u ∈ units16 c, u < 0x10000 := by
  have hvalid : c.toNat < 0xd800 ∨ 0xdfff < c.toNat ∧ c.toNat < 0x110000 := c.valid
  intro u hu
  unfold units16 at hu
  split at hu
  · rw [List.mem_singleton] at hu
    omega
  · simp only [List.mem_cons, List.not_mem_nil, or_false] at hu
    omega

section
variable {s rest : List Char}

theorem units_written {units : List Nat} (h : ∀ u ∈ units, u < 0x10000) :
    Units units ((units.flatMap fun u => '\\' :: 'u' :: hex 4 u) ++ rest) rest := by
  induction units with
  | nil => exact .nil
  | cons u units ih =>
    obtain ⟨hu, hunits⟩ := List.forall_mem_cons.1 h
    obtain ⟨a, b, c, d, hhex, hunit⟩ := unit?_hex hu
    rw [List.flatMap_cons, hhex]
    exact .cons hunit (ih hunits)

theorem letter_written (c : Char) : Letter c (escapeChar c ++ rest) rest := by
  have heq : ∀ {d : Char}, c.toNat = d.toNat → c = d := fun h => Char.toNat_inj.1 h
  unfold escapeChar
  split_ifs with hsame hn hr ht hb hf hplain
  · rcases hsame with rfl | rfl
    · exact .short (by decide)
    · exact .short (by decide)
  · exact .short (by rw [hn]; decide)
  · exact .short (by rw [hr]; decide)
  · exact .short (by rw [ht]; decide)
  · exact .short (by rw [show c = '\x08' from heq hb]; decide)
  · exact .short (by rw [show c = '\x0c' from heq hf]; decide)
  · rw [not_or] at hsame
    exact .plain hplain.1 hsame.1 hsame.2
  · exact .units (units_written units16_lt)

theorem letters_written (chars : List Char) :
    Letters chars (chars.flatMap escapeChar ++ '"' :: rest) rest := by
  induction chars with
  | nil => exact .nil
  | cons c chars ih =>
    rw [List.flatMap_cons, List.append_assoc]
    exact .cons (letter_written c) ih

theorem quoted_textChars (t : String) : Quoted t (textChars t ++ rest) rest := by
  have h : Quoted (String.ofList t.toList)
      ('"' :: (t.toList.flatMap escapeChar ++ '"' :: rest)) rest := .mk (letters_written t.toList)
  rw [String.ofList_toList] at h
  simpa [textChars] using h

end

theorem ascii_hex (width n : Nat) : ∀ c ∈ hex width n, c.toNat < 128 := by
  have hdigit : ∀ d < 16, (Nat.digitChar d).toNat < 128 := by decide
  intro c hc
  obtain ⟨d, hd, rfl⟩ := mem_hex hc
  exact hdigit d hd

theorem ascii_escapeChar (c : Char) : ∀ d ∈ escapeChar c, d.toNat < 128 := by
  have hshort : ∀ {e : Char}, e.toNat < 128 → ∀ d ∈ ['\\', e], d.toNat < 128 := by
    intro e he
    exact List.forall_mem_cons.2 ⟨by decide, List.forall_mem_singleton.2 he⟩
  unfold escapeChar
  split_ifs with hsame hn hr ht hb hf hplain
  · rcases hsame with rfl | rfl
    · exact hshort (by decide)
    · exact hshort (by decide)
  · exact hshort (by decide)
  · exact hshort (by decide)
  · exact hshort (by decide)
  · exact hshort (by decide)
  · exact hshort (by decide)
  · intro d hd
    rw [List.mem_singleton.1 hd]
    omega
  · intro d hd
    obtain ⟨u, -, hd⟩ := List.mem_flatMap.1 hd
    rcases List.mem_cons.1 hd with rfl | hd
    · decide
    · rcases List.mem_cons.1 hd with rfl | hd
      · decide
      · exact ascii_hex 4 u d hd

theorem ascii_textChars (t : String) : ∀ c ∈ textChars t, c.toNat < 128 := by
  intro c hc
  rcases List.mem_cons.1 hc with rfl | hc
  · decide
  · rcases List.mem_append.1 hc with hc | hc
    · obtain ⟨d, -, hc⟩ := List.mem_flatMap.1 hc
      exact ascii_escapeChar d c hc
    · rw [List.mem_singleton.1 hc]
      decide

end MetricLedger.Json
