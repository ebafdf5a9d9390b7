import MetricLedger.Proofs.Denom.Names

/-!
# Tokens of one name

The digits of a digest tell all of it, so two tokens get one name just when their ways have one
digest. A way is read back if its channel has no slash; a slash in the channel may as well be one of
the denom.
-/

namespace MetricLedger

/-! ## Digests -/

theorem Text.hexValue?_toUpper : ∀ d < 16, hexValue? (Nat.digitChar d).toUpper = some d := by
  decide

theorem Text.eq_of_upper_hex {width n n' : Nat} (hn : n < 16 ^ width) (hn' : n' < 16 ^ width)
    (h : (hex width n).map Char.toUpper = (hex width n').map Char.toUpper) : n = n' := by
  induction width generalizing n n' with
  | zero => omega
  | succ width ih =>
    rw [hex, hex, List.map_append, List.map_append] at h
    obtain ⟨hfront, hlast⟩ := List.append_inj' h rfl
    have hfront := ih (by omega) (by omega) hfront
    have hlast := congrArg hexValue? (List.cons.inj hlast).1
    rw [hexValue?_toUpper _ (Nat.mod_lt _ (by decide)),
      hexValue?_toUpper _ (Nat.mod_lt _ (by decide)), Option.some.injEq] at hlast
    omega

theorem eq_of_flatMap_eq {α β : Type} {f : α → List β} {width : Nat}
    (hlength : ∀ x, (f x).length = width) (hf : ∀ x y, f x = f y → x = y) {xs ys : List α}
    (hxy : xs.length = ys.length) (h : xs.flatMap f = ys.flatMap f) : xs = ys := by
  induction xs generalizing ys with
  | nil => exact (List.length_eq_zero_iff.1 hxy.symm).symm
  | cons x xs ih =>
    cases ys with
    | nil => cases hxy
    | cons y ys =>
      rw [List.flatMap_cons, List.flatMap_cons] at h
      obtain ⟨hhead, htail⟩ := List.append_inj h (by rw [hlength, hlength])
      rw [hf x y hhead, ih (Nat.succ.inj hxy) htail]

namespace Digest.Sha256

theorem Words.toList_injective {v w : Words} (h : v.toList = w.toList) : v = w := by
  cases v
  cases w
  simpa [toList] using h

theorem chars_eq_flatMap (message : List UInt8) :
    chars message =
      (digest message).toList.flatMap fun w => (Text.hex 8 w.toNat).map Char.toUpper := by
  rw [chars, List.map_flatMap]

theorem chars_eq_iff {message message' : List UInt8} :
    chars message = chars message' ↔ digest message = digest message' := by
  refine ⟨fun h => ?_, fun h => by rw [chars, chars, h]⟩
  rw [chars_eq_flatMap, chars_eq_flatMap] at h
  have hlength : ∀ w : UInt32, ((Text.hex 8 w.toNat).map Char.toUpper).length = 8 := fun w => by
    rw [List.length_map, Text.length_hex]
  refine Words.toList_injective (eq_of_flatMap_eq hlength (fun v w hvw => ?_) rfl h)
  exact UInt32.toNat_inj.1 (Text.eq_of_upper_hex v.toNat_lt w.toNat_lt hvw)

structure Collide (message message' : List UInt8) : Prop where
  ne : message ≠ message'
  digest : digest message = Sha256.digest message'

end Digest.Sha256

theorem Text.Utf8.encode_injective {s t : String} (h : encode s = encode t) : s = t := by
  have hs := decode?_encode s
  rw [h, decode?_encode] at hs
  exact (Option.some.inj hs).symm

/-! ## Ways -/

theorem append_slash_eq_iff {c c' d d' : List Char} : c ++ '/' :: d = c' ++ '/' :: d' ↔
    c = c' ∧ d = d' ∨ (∃ part, c' = c ++ '/' :: part ∧ d = part ++ '/' :: d') ∨
      ∃ part, c = c' ++ '/' :: part ∧ d' = part ++ '/' :: d := by
  constructor
  · intro h
    rcases List.append_eq_append_iff.1 h with ⟨more, rfl, hmore⟩ | ⟨more, rfl, hmore⟩
    · cases more with
      | nil => exact .inl ⟨(List.append_nil c).symm, (List.cons.inj hmore).2⟩
      | cons x part =>
        obtain ⟨rfl, rfl⟩ := List.cons.inj hmore
        exact .inr (.inl ⟨part, rfl, rfl⟩)
    · cases more with
      | nil => exact .inl ⟨List.append_nil c', (List.cons.inj hmore).2.symm⟩
      | cons x part =>
        obtain ⟨rfl, rfl⟩ := List.cons.inj hmore
        exact .inr (.inr ⟨part, rfl, rfl⟩)
  · rintro (⟨rfl, rfl⟩ | ⟨part, rfl, rfl⟩ | ⟨part, rfl, rfl⟩)
    · rfl
    · rw [List.append_assoc, List.cons_append]
    · rw [List.append_assoc, List.cons_append]

namespace Denom

def message (denom channel : String) : List UInt8 := Text.Utf8.encode (trace denom channel)

/-- The first denom begins with a part, up to a slash, that the second channel ends with, and but
for this part the two denoms and the two channels are the same. -/
def Shifts (denom channel denom' channel' : String) : Prop :=
  ∃ part, channel'.toList = channel.toList ++ '/' :: part ∧
    denom.toList = part ++ '/' :: denom'.toList

variable {denom channel denom' channel' name name' : String}

theorem toList_trace (denom channel : String) :
    (trace denom channel).toList =
      "transfer/".toList ++ (channel.toList ++ '/' :: denom.toList) := by
  show ("transfer/" ++ channel ++ "/" ++ denom).toList = _
  simp

theorem message_eq_iff : message denom channel = message denom' channel' ↔
    (denom = denom' ∧ channel = channel') ∨ Shifts denom channel denom' channel' ∨
      Shifts denom' channel' denom channel := by
  have htrace : message denom channel = message denom' channel' ↔
      (trace denom channel).toList = (trace denom' channel').toList :=
    ⟨fun h => by rw [Text.Utf8.encode_injective h], fun h => by
      rw [message, message, String.toList_inj.1 h]⟩
  rw [htrace, toList_trace, toList_trace, List.append_cancel_left_eq, append_slash_eq_iff,
    String.toList_inj, String.toList_inj, and_comm]
  rfl

theorem Shifts.slash_mem (h : Shifts denom channel denom' channel') : '/' ∈ channel'.toList := by
  obtain ⟨part, hchannel, -⟩ := h
  rw [hchannel]
  exact List.mem_append_right _ List.mem_cons_self

theorem slash_not_mem_of_isChannel (h : isChannel channel = true) : '/' ∉ channel.toList := by
  simp only [isChannel, Bool.and_eq_true, List.all_eq_true] at h
  obtain ⟨⟨hmark, -⟩, hdigits⟩ := h
  obtain ⟨number, htext⟩ := List.isPrefixOf_iff_prefix.1 hmark
  rw [← htext, List.drop_left] at hdigits
  rw [← htext]
  intro hmem
  rcases List.mem_append.1 hmem with hmem | hmem
  · exact absurd hmem (by decide)
  · exact absurd (hdigits _ hmem) (by decide)

theorem hashed_eq_iff : hashed denom channel = hashed denom' channel' ↔
    message denom channel = message denom' channel' ∨
      Digest.Sha256.Collide (message denom channel) (message denom' channel') := by
  rw [hashed, hashed, named, named, String.append_right_inj, String.ofList_inj,
    Digest.Sha256.chars_eq_iff]
  constructor
  · intro h
    by_cases hmessage : message denom channel = message denom' channel'
    · exact .inl hmessage
    · exact .inr ⟨hmessage, h⟩
  · rintro (h | h)
    · exact congrArg _ h
    · exact h.digest

/-- **Which tokens share a name.** Two that are hashed do so just when they are the same, when a part
of the denom of one is counted to the channel of the other, or when their ways collide. As no
channel that is known by a number has a slash, over such channels nothing but a collision makes two
tokens share one. -/
theorem hashOver_tells_apart (h : hashOver denom channel = .ok name)
    (h' : hashOver denom' channel' = .ok name') :
    (name = name' ↔ (denom = denom' ∧ channel = channel') ∨
      Shifts denom channel denom' channel' ∨ Shifts denom' channel' denom channel ∨
      Digest.Sha256.Collide (message denom channel) (message denom' channel')) ∧
    ('/' ∉ channel.toList → '/' ∉ channel'.toList →
      ¬Digest.Sha256.Collide (message denom channel) (message denom' channel') →
      (name = name' ↔ denom = denom' ∧ channel = channel')) ∧
    ∀ c, isChannel c = true → '/' ∉ c.toList := by
  obtain ⟨-, -, rfl⟩ := hashOver_eq_ok_iff.1 h
  obtain ⟨-, -, rfl⟩ := hashOver_eq_ok_iff.1 h'
  have hshared : hashed denom channel = hashed denom' channel' ↔ _ :=
    hashed_eq_iff.trans (or_congr_left message_eq_iff)
  simp only [or_assoc] at hshared
  refine ⟨hshared, fun hslash hslash' hcollide => ?_, fun c => slash_not_mem_of_isChannel⟩
  have hshift : ¬Shifts denom channel denom' channel' := fun h => hslash' h.slash_mem
  have hshift' : ¬Shifts denom' channel' denom channel := fun h => hslash h.slash_mem
  rw [hshared]
  simp only [hshift, hshift', hcollide, or_false]

/-- A slash in the denom does not matter where the channel has none. -/
theorem hashOver_tells_apart_slashInDenom :
    hashOver "abc/def" "channel-0" = .ok (hashed "abc/def" "channel-0") ∧
    hashOver "def" "channel-0" = .ok (hashed "def" "channel-0") ∧
    '/' ∉ "channel-0".toList ∧
    ¬Digest.Sha256.Collide (message "abc/def" "channel-0") (message "def" "channel-0") ∧
    hashed "abc/def" "channel-0" ≠ hashed "def" "channel-0" := by
  have hdigest : Digest.Sha256.digest (message "abc/def" "channel-0") ≠
      Digest.Sha256.digest (message "def" "channel-0") := by decide +kernel
  have h : hashOver "abc/def" "channel-0" = .ok (hashed "abc/def" "channel-0") := rfl
  have h' : hashOver "def" "channel-0" = .ok (hashed "def" "channel-0") := rfl
  have hslash : '/' ∉ "channel-0".toList := by decide
  have hcollide : ¬Digest.Sha256.Collide (message "abc/def" "channel-0")
      (message "def" "channel-0") := fun h => hdigest h.digest
  refine ⟨h, h', hslash, hcollide, fun hname => ?_⟩
  have hsame := ((hashOver_tells_apart h h').2.1 hslash hslash hcollide).1 hname
  exact absurd hsame.1 (by decide)

/-- But where the channel may have one, two tokens have the same way, so that no digest can tell
them apart. -/
theorem slashInChannel_not_told_apart :
    hashOver "abc/def" "channel-0" = .ok (hashed "abc/def" "channel-0") ∧
    hashOver "def" "channel-0/abc" = .ok (hashed "abc/def" "channel-0") ∧
    message "abc/def" "channel-0" = message "def" "channel-0/abc" ∧ "abc/def" ≠ "def" ∧
    "channel-0" ≠ "channel-0/abc" := by
  have hmessage : message "abc/def" "channel-0" = message "def" "channel-0/abc" := by decide
  have hname : hashed "abc/def" "channel-0" = hashed "def" "channel-0/abc" :=
    hashed_eq_iff.2 (.inl hmessage)
  exact ⟨rfl, hname ▸ rfl, hmessage, by decide, by decide⟩

end Denom

end MetricLedger
