import MetricLedger.Proofs.Json.Texts
import MetricLedger.Submission

/-!
# The denom that attributes name

The attributes of a rate name a denom exactly if they are the UTF-8 form of a JSON object all of
whose members have the one name that is allowed, and the last of which holds that denom. Whatever
else they are, the rate is refused for them. Earlier members count for nothing but have to be JSON
in the ledger's sense, which knows three words for numbers and bounds the digits of integers.
-/

namespace MetricLedger.RateAttributes

open Json Text

/-- The payload is the text of an object whose members all have the one name, and the last one
holds this denom. -/
def Names (N : Spelling Value) (payload : Payload) (denom : String) : Prop :=
  ∃ text members, payload = Utf8.encode text ∧ IsText N (.object members) text.toList ∧
    (Value.object members).depth ≤ depthLimit ∧ (∀ m ∈ members, m.1 = field) ∧
    members.getLast?.map Prod.snd = some (.text denom)

section
variable {payload : Payload} {denom : String} {v : Value}

theorem denomOf?_eq_some_iff :
    denomOf? v = some denom ↔ ∃ members, v = .object members ∧ (∀ m ∈ members, m.1 = field) ∧
      members.getLast?.map Prod.snd = some (.text denom) := by
  constructor
  · intro h
    unfold denomOf? at h
    split at h
    · rename_i members
      split at h
      · rename_i hall
        refine ⟨members, rfl, by simpa using hall, ?_⟩
        split at h
        · rename_i hlast
          cases h
          rw [hlast]
          rfl
        · cases h
      · cases h
    · cases h
  · rintro ⟨members, rfl, hall, hlast⟩
    obtain ⟨⟨name, v⟩, hlast, rfl⟩ := Option.map_eq_some_iff.1 hlast
    rw [denomOf?, if_pos (by simpa using hall), hlast]

theorem decode?_eq_some_iff : decode? payload = some denom ↔ Names LedgerNumber payload denom := by
  simp only [decode?, Option.bind_eq_some_iff, Utf8.decode?_eq_some_iff, ofText?,
    ofChars?_eq_some_iff, denomOf?_eq_some_iff]
  constructor
  · rintro ⟨_, ⟨text, hpayload, htext, hdepth⟩, members, rfl, hall, hlast⟩
    exact ⟨text, members, hpayload, htext, hdepth, hall, hlast⟩
  · rintro ⟨text, members, hpayload, htext, hdepth, hall, hlast⟩
    exact ⟨_, ⟨text, hpayload, htext, hdepth⟩, members, rfl, hall, hlast⟩

theorem denom_eq_ok_iff {s : Submission} (hs : s.attributes = some payload) :
    s.denom = .ok denom ↔ Names LedgerNumber payload denom := by
  rw [← decode?_eq_some_iff]
  cases h : decode? payload <;> simp [Submission.denom, hs, h]

theorem denom_eq_error_iff {s : Submission} (hs : s.attributes = some payload) :
    s.denom = .error (.invalidMetadata s.type) ↔ ∀ denom, ¬Names LedgerNumber payload denom := by
  simp only [← decode?_eq_some_iff]
  cases h : decode? payload <;> simp [Submission.denom, hs, h]

end

section
variable {N : Spelling Value} {s s' rest : List Char} {v : Value} {denom : String}

def lastMember (denom : String) : List Char :=
  ',' :: (textChars field ++ ':' :: (textChars denom ++ ['\x7d']))

def twice (first : List Char) (denom : String) : String :=
  String.ofList ('\x7b' :: (textChars field ++ ':' :: (first ++ lastMember denom)))

theorem names_twice {first : List Char}
    (h : Spells N v (first ++ lastMember denom) (lastMember denom)) (hdepth : v.depth = 0) :
    Names N (Utf8.encode (twice first denom)) denom := by
  refine ⟨_, [(field, v), (field, .text denom)], rfl, ?_, ?_, ?_, rfl⟩
  · rw [twice, String.toList_ofList]
    have hlast : Member (Spells N) (field, .text denom)
        (textChars field ++ ':' :: (textChars denom ++ ['\x7d'])) ['\x7d'] :=
      .mk (quoted_textChars field) .none .none (.scalar (.text (quoted_textChars denom)))
    have hfirst : Member (Spells N) (field, v)
        (textChars field ++ ':' :: (first ++ lastMember denom)) (lastMember denom) :=
      .mk (quoted_textChars field) .none .none h
    exact .mk .none (.object (.cons .none hfirst .none (.last .none hlast .none))) .none
  · simp [Value.depth, Value.membersDepth, hdepth, depthLimit]
  · simp

/-- What stands behind the first name is a value, and then the object ends or goes on. -/
theorem exists_value_of_isText (hN : ∀ {v s rest}, N v s rest → s.head? ≠ some '\x7b')
    (hs : EndsBlanks s)
    (h : IsText N v ('\x7b' :: (textChars field ++ ':' :: s))) :
    ∃ w s' d more, Spells N w s s' ∧ Blanks s' (d :: more) ∧ (d = ',' ∨ d = '\x7d') := by
  obtain ⟨hblanks, hspells, -⟩ := h
  obtain rfl := hblanks.eq_self (endsBlanks_cons (by decide))
  have hmember : ∀ {m : String × Value} {s₁ s₂},
      Blanks (textChars field ++ ':' :: s) s₁ → Member (Spells N) m s₁ s₂ →
      Spells N m.2 s s₂ := by
    intro m s₁ s₂ hblanks hmember
    obtain rfl := hblanks.eq_self (endsBlanks_cons (by decide))
    obtain ⟨hname, hcolon, hblanks, hv⟩ := hmember
    have hread := (readString_eq_some_iff.2 hname).symm.trans
      (readString_eq_some_iff.2 (quoted_textChars field))
    cases hread
    cases hcolon.eq_self (endsBlanks_cons (by decide))
    cases hblanks.eq_self hs
    exact hv
  cases hspells with
  | scalar h =>
    cases h with
    | number h => exact absurd rfl (hN h)
    | text h => cases h
  | emptyObject hend => cases hend.eq_self (endsBlanks_cons (by decide))
  | object hmembers =>
    cases hmembers with
    | last hblanks hm hend => exact ⟨_, _, _, _, hmember hblanks hm, hend, .inr rfl⟩
    | cons hblanks hm hcomma => exact ⟨_, _, _, _, hmember hblanks hm, hcomma, .inl rfl⟩

theorem not_brace_of_numeral {limit : Option Nat} (h : Numeral limit v s rest) :
    s.head? ≠ some '\x7b' := by
  obtain ⟨negative, c, tail, rfl, hc⟩ := h.exists_digit
  cases negative with
  | true => simp [Decimal.withSign]
  | false =>
    have hne := ne_of_isDigit (d := '\x7b') hc (by decide)
    simpa [Decimal.withSign] using hne

def numberWords : List (List Char) := ["NaN".toList, "Infinity".toList, "-Infinity".toList]

theorem number_of_spells {c : Char} (hc : c ∉ ['n', 't', 'f', '"', '[', '\x7b'])
    (h : Spells N v (c :: s) rest) : N v (c :: s) rest := by
  cases h with
  | scalar h =>
    cases h with
    | number h => exact h
    | text h =>
      cases h
      simp at hc
    | _ => simp at hc
  | _ => simp at hc

theorem not_spells_word {word : List Char} (hword : word ∈ numberWords) :
    ¬Spells StrictNumber v (word ++ s) rest := by
  intro h
  simp only [numberWords, List.mem_cons, List.not_mem_nil, or_false] at hword
  rcases hword with rfl | rfl | rfl
  all_goals
    -- a number starts with a digit, or a minus sign and a digit
    obtain ⟨_ | _, c, tail, ⟨⟩, ⟨⟩⟩ := (number_of_spells (by decide) h).exists_digit

/-- Of too many digits the ledger leaves some behind. -/
theorem head?_of_numeral {limit count : Nat} {tail : List Char} (hcount : limit < count)
    (h : Numeral (some limit) v (List.replicate count '1' ++ tail) rest) :
    rest.head? = some '1' := by
  generalize htext : List.replicate count '1' ++ tail = text at h
  obtain ⟨-, hlen, hfraction, hpower⟩ := h
  rename_i negative whole fraction s₁ s₂ power
  have hlen := hlen limit rfl
  have hat : ∀ i < count, (List.replicate count '1' ++ tail)[i]? = some '1' := by
    intro i hi
    rw [List.getElem?_append_left (by simpa using hi), List.getElem?_replicate, if_pos hi]
  cases negative with
  | true =>
    have hfirst := hat 0 (by omega)
    rw [htext] at hfirst
    cases hfirst
  | false =>
    have hnext := hat whole.length (by omega)
    rw [htext, show Decimal.withSign false (whole ++ s₁) = whole ++ s₁ from rfl,
      List.getElem?_append_right (Nat.le_refl _), Nat.sub_self, ← List.head?_eq_getElem?] at hnext
    cases hfraction with
    | digits => cases hnext
    | none =>
      cases hpower with
      | none => exact hnext
      | power hmark =>
        cases hnext
        rcases hmark with h | h <;> cases h

theorem head?_of_spells {count : Nat} {tail : List Char}
    (hcount : Integer.digitLimit < count)
    (h : Spells LedgerNumber v (List.replicate count '1' ++ tail) rest) :
    rest.head? = some '1' := by
  have hnumeral : Numeral (some Integer.digitLimit) v (List.replicate count '1' ++ tail) rest →
      rest.head? = some '1' := head?_of_numeral hcount
  obtain ⟨count, rfl⟩ := Nat.exists_eq_add_of_lt hcount
  rw [List.replicate_succ, List.cons_append] at h hnumeral
  cases number_of_spells (by decide) h with
  | numeral h => exact hnumeral h

theorem Names.exists_isText {text : String} (h : Names N (Utf8.encode text) denom) :
    ∃ v, IsText N v text.toList := by
  obtain ⟨text', members, heq, htext, -⟩ := h
  have hsame := (Utf8.decode?_eq_some_iff.2 heq).symm.trans (Utf8.decode?_encode text)
  cases hsame
  exact ⟨_, htext⟩

theorem names_word {word : List Char} (hword : word ∈ numberWords) (denom : String) :
    Names LedgerNumber (Utf8.encode (twice word denom)) denom := by
  simp only [numberWords, List.mem_cons, List.not_mem_nil, or_false] at hword
  rcases hword with rfl | rfl | rfl
  · exact names_twice (.scalar (.number .nan)) rfl
  · exact names_twice (.scalar (.number .infinity)) rfl
  · exact names_twice (.scalar (.number .minusInfinity)) rfl

theorem not_names_word {word : List Char} (hword : word ∈ numberWords) (first denom : String) :
    ¬Names StrictNumber (Utf8.encode (twice word first)) denom := by
  intro h
  obtain ⟨v, htext⟩ := h.exists_isText
  rw [twice, String.toList_ofList] at htext
  have hhead : EndsBlanks (word ++ lastMember first) := by
    simp only [numberWords, List.mem_cons, List.not_mem_nil, or_false] at hword
    rcases hword with rfl | rfl | rfl
    all_goals exact endsBlanks_cons (by decide)
  obtain ⟨w, s', d, more, hw, -⟩ :=
    exists_value_of_isText (fun h => not_brace_of_numeral h) hhead htext
  exact not_spells_word hword hw

theorem isWhole_ones {count : Nat} (hcount : 0 < count) : IsWhole (List.replicate count '1') := by
  obtain ⟨count, rfl⟩ := Nat.exists_eq_succ_of_ne_zero hcount.ne'
  refine ⟨?_, List.cons_ne_nil _ _, ?_⟩
  · intro c hc
    rw [List.eq_of_mem_replicate hc]
    decide
  · rintro ⟨⟩

theorem names_long {count : Nat} (hcount : 0 < count) (denom : String) :
    Names StrictNumber (Utf8.encode (twice (List.replicate count '1') denom)) denom := by
  have h : StrictNumber (number false (List.replicate count '1') [] none)
      (List.replicate count '1' ++ lastMember denom) (lastMember denom) :=
    .mk (isWhole_ones hcount) (by simp) .none .none
  exact names_twice (.scalar (.number h)) h.depth

theorem not_names_long {count : Nat} (hcount : Integer.digitLimit < count) (first denom : String) :
    ¬Names LedgerNumber (Utf8.encode (twice (List.replicate count '1') first)) denom := by
  intro h
  obtain ⟨v, htext⟩ := h.exists_isText
  rw [twice, String.toList_ofList] at htext
  have hhead : EndsBlanks (List.replicate count '1' ++ lastMember first) := by
    obtain ⟨count, rfl⟩ := Nat.exists_eq_add_of_lt hcount
    exact endsBlanks_cons (by decide)
  obtain ⟨w, s', d, more, hw, hend, hd⟩ :=
    exists_value_of_isText (fun h => (Scalar.number h).starts.2.2) hhead htext
  obtain ⟨tail, rfl⟩ := List.head?_eq_some_iff.1 (head?_of_spells hcount hw)
  cases hend.eq_self (endsBlanks_cons (by decide))
  rcases hd with h | h <;> cases h

example :
    twice "NaN".toList "x" = "\x7b\"sttoken_denom\":NaN,\"sttoken_denom\":\"x\"\x7d" := by decide

end

end MetricLedger.RateAttributes
