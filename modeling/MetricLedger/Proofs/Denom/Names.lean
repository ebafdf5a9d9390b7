import MetricLedger.Refusal

/-!
# Names on the other side of a channel

What a token is called there is refused for the first of five causes that applies, and otherwise
64 digits after a mark. Such a name is a native denom like any other, but it is not hashed again.
The texts may hold halves of surrogate pairs, which only the channel gets as far as its encoding.
-/

namespace MetricLedger

/-! ## Digits of a digest -/

def Digest.digits : List Char := "0123456789ABCDEF".toList

theorem Digest.toUpper_mem_digits : ∀ d < 16, (Nat.digitChar d).toUpper ∈ digits := by decide

theorem Digest.Sha256.mem_digits_of_mem_chars {c : Char} {message : List UInt8}
    (h : c ∈ chars message) : c ∈ digits := by
  obtain ⟨lower, hlower, rfl⟩ := List.mem_map.1 h
  obtain ⟨w, -, hw⟩ := List.mem_flatMap.1 hlower
  obtain ⟨d, hd, rfl⟩ := Text.mem_hex hw
  exact toUpper_mem_digits d hd

/-! ## Native denoms -/

namespace Denom

open Text (Loose Point)

def IsLetter : Point → Prop
  | .char c => 'a' ≤ c ∧ c ≤ 'z' ∨ 'A' ≤ c ∧ c ≤ 'Z'
  | .half _ => False

def MayFollow : Point → Prop
  | .char c => IsLetter (.char c) ∨ ('0' ≤ c ∧ c ≤ '9') ∨ c ∈ ['/', ':', '.', '_', '-']
  | .half _ => False

def IsSized (text : Loose) : Prop := 3 ≤ text.length ∧ text.length ≤ 128

structure IsNative (text : Loose) : Prop where
  sized : IsSized text
  letter : ∃ first rest, text = first :: rest ∧ IsLetter first ∧ ∀ p ∈ rest, MayFollow p

/-- The first thing that is wrong with a text that is to be a native denom. -/
def FirstFault (text : Loose) : DenomFault → Prop
  | .length => ¬IsSized text
  | .firstCharacter => IsSized text ∧ ∃ first rest, text = first :: rest ∧ ¬IsLetter first
  | .otherCharacter => IsSized text ∧ ∃ first rest, text = first :: rest ∧ IsLetter first ∧
      ∃ p ∈ rest, ¬MayFollow p

theorem isAlpha_iff {c : Char} : c.isAlpha = true ↔ IsLetter (.char c) := by
  have hupper : c.isUpper = true ↔ 'A' ≤ c ∧ c ≤ 'Z' := decide_eq_true_iff
  have hlower : c.isLower = true ↔ 'a' ≤ c ∧ c ≤ 'z' := by
    change (decide ('a' ≤ c) && decide (c ≤ 'z')) = true ↔ _
    rw [Bool.and_eq_true, decide_eq_true_iff, decide_eq_true_iff]
  change (c.isUpper || c.isLower) = true ↔ _
  rw [Bool.or_eq_true, hupper, hlower, or_comm, IsLetter]

theorem isFirst_iff {p : Point} : isFirst p = true ↔ IsLetter p := by
  cases p with
  | char c => exact isAlpha_iff
  | half number => exact iff_of_false Bool.false_ne_true not_false

theorem isInner_iff {p : Point} : isInner p = true ↔ MayFollow p := by
  cases p with
  | char c =>
    simp only [isInner, Char.isAlphanum, Bool.or_eq_true, isAlpha_iff, Char.isDigit,
      Bool.and_eq_true, decide_eq_true_eq, List.contains_iff_mem, separators, MayFollow,
      Char.le_def, or_assoc]
  | half number => exact iff_of_false Bool.false_ne_true not_false

theorem fault?_cases (text : Loose) :
    match fault? text with
    | some fault => FirstFault text fault
    | none => IsNative text := by
  cases text with
  | nil => exact fun h => absurd h.1 (by decide)
  | cons first rest =>
    unfold fault? leastLength greatestLength
    by_cases hsize : rest.length + 1 < 3 ∨ 128 < rest.length + 1
    · simp only [if_pos hsize]
      rintro ⟨hleast, hgreatest⟩
      rw [List.length_cons] at hleast hgreatest
      omega
    · simp only [if_neg hsize]
      have hsized : IsSized (first :: rest) := by
        rw [IsSized, List.length_cons]
        omega
      by_cases hfirst : isFirst first = true
      · by_cases hrest : rest.all isInner = true
        · rw [hfirst, hrest]
          refine ⟨hsized, first, rest, rfl, isFirst_iff.1 hfirst, fun p hp => ?_⟩
          exact isInner_iff.1 (List.all_eq_true.1 hrest p hp)
        · rw [hfirst, eq_false_of_ne_true hrest]
          refine ⟨hsized, first, rest, rfl, isFirst_iff.1 hfirst, ?_⟩
          obtain ⟨p, hp, hinner⟩ := List.all_eq_false.1 (eq_false_of_ne_true hrest)
          exact ⟨p, hp, fun h => hinner (isInner_iff.2 h)⟩
      · rw [eq_false_of_ne_true hfirst]
        exact ⟨hsized, first, rest, rfl, fun h => hfirst (isFirst_iff.2 h)⟩

section
variable {text : Loose} {fault other : DenomFault}

theorem FirstFault.unique (h : FirstFault text fault) (h' : FirstFault text other) :
    fault = other := by
  cases fault <;> cases other <;> grind [FirstFault]

theorem IsNative.not_firstFault (h : IsNative text) : ¬FirstFault text fault := by
  obtain ⟨hsized, first, rest, rfl, hfirst, hrest⟩ := h
  cases fault <;> grind [FirstFault]

theorem fault?_eq_some_iff : fault? text = some fault ↔ FirstFault text fault := by
  have hcases := fault?_cases text
  cases hfault : fault? text with
  | some found =>
    rw [hfault] at hcases
    refine ⟨fun h => ?_, fun h => ?_⟩
    · cases h
      exact hcases
    · rw [FirstFault.unique hcases h]
  | none =>
    rw [hfault] at hcases
    exact ⟨nofun, fun h => absurd h hcases.not_firstFault⟩

theorem fault?_eq_none_iff : fault? text = none ↔ IsNative text := by
  have hcases := fault?_cases text
  cases hfault : fault? text with
  | some found =>
    rw [hfault] at hcases
    exact ⟨nofun, fun h => absurd hcases h.not_firstFault⟩
  | none =>
    rw [hfault] at hcases
    exact ⟨fun _ => hcases, fun _ => rfl⟩

theorem IsNative.half_not_mem (h : IsNative text) {number : Fin 0x800} :
    .half number ∉ text := by
  obtain ⟨-, first, rest, rfl, hfirst, hrest⟩ := h
  intro hmem
  rcases List.mem_cons.1 hmem with rfl | hmem
  · exact hfirst
  · exact hrest _ hmem

end

/-! ## Hashing -/

section
variable {denom channel : Loose} {name : String}

theorem isHashed_iff : isHashed denom = true ↔ Loose.ofString "ibc/" <+: denom :=
  List.isPrefixOf_iff_prefix

theorem looseTrace_eq_none_iff (h : IsNative denom) (channel : Loose) :
    (looseTrace denom channel).string? = none ↔ ∃ number, .half number ∈ channel := by
  rw [Loose.string?_eq_none_iff]
  refine exists_congr fun number => ?_
  simp only [looseTrace, List.mem_append, Loose.half_not_mem_ofString, h.half_not_mem, false_or,
    or_false]

theorem hash_of_isHashed (h : isHashed denom = true) (channel : Loose) :
    hash denom channel = .error (.hashed denom) := by
  rw [hash, h]
  rfl

theorem hash_of_fault (h : ¬isHashed denom = true) {fault : DenomFault}
    (hfault : fault? denom = some fault) (channel : Loose) :
    hash denom channel = .error (.bad fault) := by
  rw [hash, eq_false_of_ne_true h, hfault]
  rfl

theorem hash_of_isNative (h : ¬isHashed denom = true) (hnative : IsNative denom)
    (channel : Loose) : hash denom channel =
      match (looseTrace denom channel).string? with
      | some way => .ok (named way)
      | none => .error .unencodable := by
  rw [hash, eq_false_of_ne_true h, fault?_eq_none_iff.2 hnative]
  cases (looseTrace denom channel).string? <;> rfl

def HashFault.Due (denom channel : Loose) : HashFault → Prop
  | .hashed text => isHashed denom = true ∧ text = denom
  | .bad fault => ¬isHashed denom = true ∧ FirstFault denom fault
  | .unencodable => ¬isHashed denom = true ∧ IsNative denom ∧ ∃ number, .half number ∈ channel

theorem hash_eq_error_iff {fault : HashFault} :
    hash denom channel = .error fault ↔ fault.Due denom channel := by
  by_cases h : isHashed denom = true
  · rw [hash_of_isHashed h, Except.error.injEq]
    cases fault <;> simp [HashFault.Due, h, eq_comm]
  · cases hfault : fault? denom with
    | some first =>
      have hfirst := fault?_eq_some_iff.1 hfault
      have hnative : ¬IsNative denom := fun hnative => hnative.not_firstFault hfirst
      have hunique (other : DenomFault) : first = other ↔ FirstFault denom other :=
        ⟨fun heq => heq ▸ hfirst, hfirst.unique⟩
      rw [hash_of_fault h hfault, Except.error.injEq]
      cases fault <;> simp [HashFault.Due, h, hunique, hnative]
    | none =>
      have hnative := fault?_eq_none_iff.1 hfault
      have hway := looseTrace_eq_none_iff hnative channel
      have hno (other : DenomFault) : ¬FirstFault denom other := hnative.not_firstFault
      rw [hash_of_isNative h hnative]
      cases htext : (looseTrace denom channel).string? with
      | none =>
        rw [htext] at hway
        cases fault <;> simp [HashFault.Due, h, hno, hnative, ← hway]
      | some way =>
        rw [htext] at hway
        cases fault <;> simp [HashFault.Due, h, hno, ← hway]

theorem hash_eq_ok_iff : hash denom channel = .ok name ↔
    ¬isHashed denom = true ∧ IsNative denom ∧
      ∃ way, (looseTrace denom channel).string? = some way ∧ name = named way := by
  by_cases h : isHashed denom = true
  · rw [hash_of_isHashed h]
    exact ⟨nofun, fun h' => absurd h h'.1⟩
  · cases hfault : fault? denom with
    | some first =>
      rw [hash_of_fault h hfault]
      exact ⟨nofun, fun h' => absurd (fault?_eq_some_iff.1 hfault) h'.2.1.not_firstFault⟩
    | none =>
      have hnative := fault?_eq_none_iff.1 hfault
      rw [hash_of_isNative h hnative]
      cases (looseTrace denom channel).string? with
      | none => exact ⟨nofun, fun ⟨_, _, way, hway, _⟩ => nomatch hway⟩
      | some way => simp [h, hnative, eq_comm]

theorem exists_hash_iff : (∃ name, hash denom channel = .ok name) ↔
    ¬isHashed denom = true ∧ IsNative denom ∧ ∀ number, .half number ∉ channel := by
  simp only [hash_eq_ok_iff, exists_and_left]
  refine and_congr_right fun _ => and_congr_right fun hnative => ?_
  rw [← not_exists, ← looseTrace_eq_none_iff hnative, ← Ne, Option.ne_none_iff_exists']
  exact ⟨fun ⟨_, way, hway, _⟩ => ⟨way, hway⟩, fun ⟨way, hway⟩ => ⟨_, way, hway, rfl⟩⟩

end

section
variable {denom channel name : String}

theorem looseTrace_ofString (denom channel : String) :
    looseTrace (.ofString denom) (.ofString channel) = .ofString (trace denom channel) := by
  show _ = Loose.ofString ("transfer/" ++ channel ++ "/" ++ denom)
  simp only [looseTrace, Loose.ofString_append]

/-- Texts without halves are all hashed the way the program does it. -/
theorem hash_ofString (denom channel : String) :
    hash (.ofString denom) (.ofString channel) =
      match hashOver denom channel with
      | .ok name => .ok name
      | .error (.badDenom fault) => .error (.bad fault)
      | .error _ => .error (.hashed (.ofString denom)) := by
  rw [hash, hashOver, check, looseTrace_ofString, Loose.string?_ofString]
  by_cases h : isHashed (.ofString denom) = true
  · rw [h]
    rfl
  · rw [eq_false_of_ne_true h]
    cases fault? (.ofString denom) <;> rfl

theorem hashOver_eq_ok_iff : hashOver denom channel = .ok name ↔
    ¬isHashed (.ofString denom) = true ∧ IsNative (.ofString denom) ∧
      name = hashed denom channel := by
  have hok : hashOver denom channel = .ok name ↔
      hash (.ofString denom) (.ofString channel) = .ok name := by
    rw [hash_ofString]
    cases hashOver denom channel with
    | ok found => rw [Except.ok.injEq, Except.ok.injEq]
    | error refusal => cases refusal <;> exact iff_of_false nofun nofun
  rw [hok, hash_eq_ok_iff, looseTrace_ofString, Loose.string?_ofString]
  simp only [Option.some.injEq, exists_eq_left', hashed]

def IsHashedName (name : String) : Prop :=
  ∃ digits, name = "ibc/" ++ String.ofList digits ∧ digits.length = 64 ∧
    ∀ c ∈ digits, c ∈ Digest.digits

theorem isHashedName_named (way : String) : IsHashedName (named way) :=
  ⟨_, rfl, Digest.Sha256.length_chars _, fun _ => Digest.Sha256.mem_digits_of_mem_chars⟩

example : hashed "uatom" "channel-0" =
    "ibc/27394FB092D2ECCD56123C74F36E4C1F926001CEADA9CA97EA622B25F41E5EB2" := by decide +kernel

theorem isInner_of_mem_digits : ∀ c ∈ Digest.digits, isInner (.char c) = true :=
  List.all_eq_true.1 rfl

theorem IsHashedName.ofString (h : IsHashedName name) :
    ∃ digits, Loose.ofString name = Loose.ofString "ibc/" ++ digits ∧ digits.length = 64 ∧
      ∀ p ∈ digits, MayFollow p := by
  obtain ⟨digits, rfl, hlength, hdigits⟩ := h
  refine ⟨digits.map .char, ?_, by rw [List.length_map, hlength], fun p hp => ?_⟩
  · rw [Loose.ofString_append]
    exact congrArg (fun cs => Loose.ofString "ibc/" ++ cs.map .char) String.toList_ofList
  · obtain ⟨c, hc, rfl⟩ := List.mem_map.1 hp
    exact isInner_iff.1 (isInner_of_mem_digits c (hdigits c hc))

theorem IsHashedName.isNative (h : IsHashedName name) : IsNative (.ofString name) := by
  obtain ⟨digits, htext, hlength, hdigits⟩ := h.ofString
  rw [htext]
  refine ⟨⟨?_, ?_⟩, .char 'i', _, rfl, isAlpha_iff.1 rfl, ?_⟩
  · rw [List.length_append, hlength]
    decide
  · rw [List.length_append, hlength]
    decide
  · have hmark : ∀ p ∈ Loose.ofString "bc/", isInner p = true := List.all_eq_true.1 rfl
    intro p hp
    rcases List.mem_append.1 (show p ∈ Loose.ofString "bc/" ++ digits from hp) with hp | hp
    · exact isInner_iff.1 (hmark p hp)
    · exact hdigits p hp

theorem IsHashedName.isHashed (h : IsHashedName name) : isHashed (.ofString name) = true := by
  obtain ⟨digits, htext, -, -⟩ := h.ofString
  rw [isHashed_iff, htext]
  exact List.prefix_append _ digits

theorem check_eq_ok_iff : check denom = .ok () ↔ IsNative (.ofString denom) := by
  rw [← fault?_eq_none_iff, check]
  cases fault? (.ofString denom) with
  | some fault => exact ⟨nofun, nofun⟩
  | none => exact ⟨fun _ => rfl, fun _ => rfl⟩

end

/-- **What hashing answers.** A text with the mark in front is refused for that, any other for the
first thing that is wrong with it as a native denom. If nothing is, all that may still go wrong is
that the channel has a half in it, and otherwise the name is given: the mark and 64 digits. The name
passes for a native denom and is refused itself, over any channel. -/
theorem hash_answers (denom channel : Loose) :
    (hash denom channel = .error (.hashed denom) ↔ Loose.ofString "ibc/" <+: denom) ∧
    ((∃ fault, hash denom channel = .error (.bad fault)) ↔
      ¬Loose.ofString "ibc/" <+: denom ∧ ¬IsNative denom) ∧
    (∀ fault, hash denom channel = .error (.bad fault) ↔
      ¬Loose.ofString "ibc/" <+: denom ∧ FirstFault denom fault) ∧
    (hash denom channel = .error .unencodable ↔
      ¬Loose.ofString "ibc/" <+: denom ∧ IsNative denom ∧ ∃ number, .half number ∈ channel) ∧
    ((∃ name, hash denom channel = .ok name) ↔
      ¬Loose.ofString "ibc/" <+: denom ∧ IsNative denom ∧ ∀ number, .half number ∉ channel) ∧
    ∀ name, hash denom channel = .ok name → IsHashedName name ∧ check name = .ok () ∧
      ∀ channel', hash (.ofString name) channel' = .error (.hashed (.ofString name)) := by
  simp only [← isHashed_iff, hash_eq_error_iff]
  refine ⟨and_iff_left rfl, ?_, fun fault => Iff.rfl, Iff.rfl, exists_hash_iff, fun name h => ?_⟩
  · simp only [HashFault.Due, exists_and_left, ← fault?_eq_none_iff, ← fault?_eq_some_iff,
      ← Option.ne_none_iff_exists', ne_eq]
  · obtain ⟨-, -, way, -, rfl⟩ := hash_eq_ok_iff.1 h
    have hname := isHashedName_named way
    exact ⟨hname, check_eq_ok_iff.2 hname.isNative, fun _ => ⟨hname.isHashed, rfl⟩⟩

/-- A half in the channel is seen by none of the checks, but has no bytes to digest. -/
theorem halfInChannel_not_hashed :
    ¬Loose.ofString "ibc/" <+: Loose.ofString "uosmo" ∧ IsNative (.ofString "uosmo") ∧
    hash (.ofString "uosmo") [.half 0x480] = .error .unencodable ∧
    ¬∃ name, hash (.ofString "uosmo") [.half 0x480] = .ok name := by
  have h : hash (.ofString "uosmo") [.half 0x480] = .error .unencodable := rfl
  refine ⟨by decide, fault?_eq_none_iff.1 rfl, h, ?_⟩
  rintro ⟨name, hname⟩
  rw [h] at hname
  cases hname

end Denom

end MetricLedger
