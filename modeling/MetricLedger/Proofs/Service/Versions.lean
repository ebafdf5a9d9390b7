import MetricLedger.Service
import MetricLedger.Proofs.Decimal.FixedPoint
import MetricLedger.Proofs.Results

/-!
# Versions in text

Which texts are read as versions: three parts with points between them, each of digits only, which
are read as an integer. Versions are compared by their numbers, so the order is transitive however
they are spelled.
-/

namespace MetricLedger

namespace Text

section
variable {mark : Char} {part : List Char}

theorem splitAt_of_not_mem (h : mark ∉ part) : splitAt mark part = [part] := by
  induction part with
  | nil => rfl
  | cons c part ih =>
    simp only [List.mem_cons, not_or] at h
    rw [splitAt, if_neg (Ne.symm h.1), ih h.2]

theorem splitAt_append (h : mark ∉ part) (rest : List Char) :
    splitAt mark (part ++ mark :: rest) = part :: splitAt mark rest := by
  induction part with
  | nil => simp [splitAt]
  | cons c part ih =>
    simp only [List.mem_cons, not_or] at h
    rw [List.cons_append, splitAt, if_neg (Ne.symm h.1), ih h.2]

theorem splitAt_ne_nil (mark : Char) (text : List Char) : splitAt mark text ≠ [] := by
  cases text with
  | nil => exact nofun
  | cons c rest =>
    unfold splitAt
    split
    · exact nofun
    · split
      · exact nofun
      · exact nofun

/-- Of several parts the first one ends at a mark, and of one part there is nothing else. -/
theorem splitAt_eq_cons {text : List Char} {parts : List (List Char)}
    (h : splitAt mark text = part :: parts) :
    parts = [] ∧ text = part ∨
      ∃ rest, text = part ++ mark :: rest ∧ splitAt mark rest = parts := by
  induction text generalizing part with
  | nil =>
    cases h
    exact .inl ⟨rfl, rfl⟩
  | cons c rest ih =>
    unfold splitAt at h
    split at h
    · rename_i hc
      cases h
      exact .inr ⟨rest, by rw [hc]; rfl, rfl⟩
    · split at h
      · rename_i hnil
        exact absurd hnil (splitAt_ne_nil mark rest)
      · rename_i first others hsplit
        cases h
        rcases ih hsplit with ⟨rfl, rfl⟩ | ⟨tail, rfl, htail⟩
        · exact .inl ⟨rfl, rfl⟩
        · exact .inr ⟨tail, rfl, htail⟩

end

theorem isDigit_iff {c : Char} :
    isDigit c = true ↔ ∃ z ∈ digitZeros, z ≤ c.toNat ∧ c.toNat < z + 10 := by
  simp [isDigit, digitValue?, List.find?_isSome]

/-- No digit of any script is a blank. -/
theorem not_isBlank_of_digit {c : Char} (h : isDigit c = true) : isBlank c = false := by
  obtain ⟨z, hz, hle, hlt⟩ := isDigit_iff.1 h
  -- the blanks stand before, between and after these ranges
  have hzeros : ∀ z ∈ digitZeros, z = 0x30 ∨ 0x660 ≤ z ∧ z + 10 ≤ 0x1680 ∨
      0x1681 ≤ z ∧ z + 10 ≤ 0x2000 ∨ 0x3001 ≤ z := by decide
  have hz := hzeros z hz
  rw [isBlank, Bool.eq_false_iff]
  simp only [ne_eq, Bool.or_eq_true, Bool.and_eq_true, decide_eq_true_eq, beq_iff_eq]
  omega

end Text

namespace Integer

open Text

theorem groupedDigits?_eq_mapM {text : List Char} (h : ∀ c ∈ text, isDigit c = true)
    (hne : text ≠ []) : groupedDigits? text = text.mapM digitValue? := by
  induction text using groupedDigits?.induct with
  | case1 => exact absurd rfl hne
  | case2 c =>
    rw [groupedDigits?, List.mapM_cons, List.mapM_nil]
    cases digitValue? c <;> rfl
  | case3 c rest ih =>
    have hunderscore := h '_' (List.mem_cons_of_mem _ List.mem_cons_self)
    exact absurd hunderscore (by decide)
  | case4 c rest hrest hunderscore ih =>
    have hgrouped := ih (fun d hd => h d (List.mem_cons_of_mem _ hd)) hrest
    rw [groupedDigits?, List.mapM_cons, hgrouped]
    · exact hrest
    · exact hunderscore

/-- Digits are read as an integer if there are some, and not too many. -/
theorem ofText?_of_isDigit {part : List Char} (h : ∀ c ∈ part, isDigit c = true) :
    ofText? (String.ofList part) = (Version.number? part).map Int.ofNat := by
  have htrim : trim isMargin part = part := by
    refine trim_eq_self fun c hc => ?_
    rw [isMargin, not_isBlank_of_digit (h c hc), Bool.false_and]
  rw [ofText?, String.toList_ofList, htrim]
  cases part with
  | nil => rfl
  | cons c rest =>
    have hsign : ∀ d, isDigit d = false → c ≠ d := by
      rintro d hd rfl
      rw [h c List.mem_cons_self] at hd
      cases hd
    have hsigned : signed? (c :: rest) = (natural? (c :: rest)).map Int.ofNat := by
      rw [signed?]
      · rintro rest' heq
        exact hsign '-' (by decide) (List.cons.inj heq).1
      · rintro rest' heq
        exact hsign '+' (by decide) (List.cons.inj heq).1
    rw [hsigned, natural?, groupedDigits?_eq_mapM h (List.cons_ne_nil c rest), Version.number?]
    cases hdigits : (c :: rest).mapM digitValue? with
    | none => rfl
    | some digits =>
      have hne : digits ≠ [] := by
        rintro rfl
        rw [List.mapM_cons] at hdigits
        cases hc : digitValue? c <;> cases hrest : rest.mapM digitValue? <;>
          simp [hc, hrest] at hdigits
      by_cases hlimit : digits.length ≤ digitLimit
      · simp [hne, hlimit, Nat.not_lt.2 hlimit]
      · simp [hlimit, Nat.lt_of_not_le hlimit]

end Integer

namespace Version

structure IsPart (part : List Char) (n : Nat) : Prop where
  digits : ∀ c ∈ part, Text.isDigit c = true
  integer : Integer.ofText? (String.ofList part) = some (n : Int)

def Spells (text : String) (v : Version) : Prop :=
  ∃ major minor patch, text.toList = major ++ '.' :: (minor ++ '.' :: patch) ∧
    IsPart major v.major ∧ IsPart minor v.minor ∧ IsPart patch v.patch

theorem isDigit_of_number? {part : List Char} {n : Nat} (h : number? part = some n) :
    ∀ c ∈ part, Text.isDigit c = true := by
  obtain ⟨digits, hdigits, -⟩ := Option.bind_eq_some_iff.1 h
  clear h
  induction part generalizing digits with
  | nil => exact nofun
  | cons c rest ih =>
    rw [List.mapM_cons] at hdigits
    obtain ⟨d, hd, hdigits⟩ := Option.bind_eq_some_iff.1 hdigits
    obtain ⟨ds, hds, -⟩ := Option.bind_eq_some_iff.1 hdigits
    intro c' hc'
    rcases List.mem_cons.1 hc' with rfl | hc'
    · rw [Text.isDigit, hd]
      rfl
    · exact ih ds hds c' hc'

theorem isPart_iff {part : List Char} {n : Nat} : IsPart part n ↔ number? part = some n := by
  constructor
  · rintro ⟨hdigits, hinteger⟩
    rw [Integer.ofText?_of_isDigit hdigits] at hinteger
    obtain ⟨m, hm, heq⟩ := Option.map_eq_some_iff.1 hinteger
    rw [hm, Int.ofNat.inj heq]
  · intro h
    have hdigits := isDigit_of_number? h
    refine ⟨hdigits, ?_⟩
    rw [Integer.ofText?_of_isDigit hdigits, h]
    rfl

theorem IsPart.point_not_mem {part : List Char} {n : Nat} (h : IsPart part n) : '.' ∉ part := by
  intro hmem
  exact absurd (h.digits '.' hmem) (by decide)

theorem ofText?_eq_some_iff {text : String} {v : Version} :
    ofText? text = some v ↔ Spells text v := by
  constructor
  · intro h
    unfold ofText? at h
    split at h
    · rename_i major minor patch hsplit
      obtain ⟨a, ha, h⟩ := Option.bind_eq_some_iff.1 h
      obtain ⟨b, hb, h⟩ := Option.bind_eq_some_iff.1 h
      obtain ⟨c, hc, h⟩ := Option.bind_eq_some_iff.1 h
      cases h
      refine ⟨major, minor, patch, ?_, isPart_iff.2 ha, isPart_iff.2 hb, isPart_iff.2 hc⟩
      rcases Text.splitAt_eq_cons hsplit with ⟨hnil, -⟩ | ⟨rest, htext, hrest⟩
      · cases hnil
      · rcases Text.splitAt_eq_cons hrest with ⟨hnil, -⟩ | ⟨last, rfl, hlast⟩
        · cases hnil
        · rcases Text.splitAt_eq_cons hlast with ⟨-, rfl⟩ | ⟨more, -, hmore⟩
          · exact htext
          · exact absurd hmore (Text.splitAt_ne_nil '.' more)
    · cases h
  · rintro ⟨major, minor, patch, htext, hmajor, hminor, hpatch⟩
    rw [ofText?, htext, Text.splitAt_append hmajor.point_not_mem,
      Text.splitAt_append hminor.point_not_mem, Text.splitAt_of_not_mem hpatch.point_not_mem]
    simp only [isPart_iff.1 hmajor, isPart_iff.1 hminor, isPart_iff.1 hpatch]
    rfl

theorem Spells.unique {text : String} {v w : Version} (h : Spells text v) (h' : Spells text w) :
    v = w :=
  Option.some.inj ((ofText?_eq_some_iff.2 h).symm.trans (ofText?_eq_some_iff.2 h'))

theorem lt_trans {u v w : Version} (h : u < v) (h' : v < w) : u < w := by
  have hlt : ∀ {v w : Version}, v < w ↔ v.major < w.major ∨
    v.major = w.major ∧ (v.minor < w.minor ∨ v.minor = w.minor ∧ v.patch < w.patch) := Iff.rfl
  rw [hlt] at *
  omega

def Precedes (recorded running : String) : Prop :=
  ∃ v w, Spells recorded v ∧ Spells running w ∧ v < w

theorem Precedes.trans {first second third : String} (h : Precedes first second)
    (h' : Precedes second third) : Precedes first third := by
  obtain ⟨u, v, hu, hv, huv⟩ := h
  obtain ⟨v', w, hv', hw, hvw⟩ := h'
  cases hv.unique hv'
  exact ⟨u, w, hu, hw, lt_trans huv hvw⟩

end Version

theorem Service.precedes_iff {recorded running : String} :
    precedes recorded running = true ↔ Version.Precedes recorded running := by
  unfold precedes Version.Precedes
  simp only [← Version.ofText?_eq_some_iff]
  cases Version.ofText? recorded <;> cases Version.ofText? running <;> simp

/-- Parts are compared as numbers, with leading zeros and in any script, but not as powers. -/
example : Service.precedes "1.0.09" "1.0.٣٠" = true ∧ Service.precedes "1.0.9" "1.0.²" = false := by
  decide +kernel

theorem Service.successor_eq_ok {recorded version : String} {running : Option String}
    (h : successor recorded running = .ok version) :
    running = some version ∧ Version.Precedes recorded version := by
  unfold successor at h
  split at h
  · split at h
    · rename_i hprecedes
      cases h
      exact ⟨rfl, precedes_iff.1 hprecedes⟩
    · cases h
  · cases h
  · cases h

theorem Service.successor_of_precedes {recorded running : String}
    (h : Version.Precedes recorded running) : successor recorded (some running) = .ok running := by
  have hprecedes := precedes_iff.2 h
  obtain ⟨v, -, hv, -⟩ := h
  unfold successor
  rw [Version.ofText?_eq_some_iff.2 hv]
  exact if_pos hprecedes

theorem Service.successor_of_not_precedes {recorded running : String}
    (h : ¬Version.Precedes recorded running) :
    successor recorded (some running) = .error (.refused (.notNewer recorded (some running))) := by
  unfold successor
  cases Version.ofText? recorded with
  | none => rfl
  | some v => exact if_neg fun hprecedes => h (precedes_iff.1 hprecedes)

end MetricLedger
