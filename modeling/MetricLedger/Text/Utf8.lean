/-!
# UTF-8

Bytes are a list, so that they can be split and compared like any other payload. The main statement
is that every text is read back from its bytes.
-/

namespace MetricLedger.Text.Utf8

def encode (text : String) : List UInt8 := text.toList.flatMap String.utf8EncodeChar

/-- The text of which these are the bytes. Neither an overlong form nor a surrogate is read. -/
def decode? (bytes : List UInt8) : Option String := String.fromUTF8? bytes.toByteArray

theorem toByteArray_encode (text : String) : (encode text).toByteArray = text.toByteArray := by
  rw [← String.ofList_toList (s := text), String.toByteArray_ofList, List.utf8Encode]
  simp [encode]

theorem decode?_encode (text : String) : decode? (encode text) = some text := by
  have hv : text.toByteArray.IsValidUTF8 := text.isValidUTF8
  simp only [decode?, String.fromUTF8?, toByteArray_encode, hv, dif_pos]
  rfl

theorem decode?_eq_some_iff {bytes : List UInt8} {text : String} :
    decode? bytes = some text ↔ bytes = encode text := by
  constructor
  · intro h
    unfold decode? String.fromUTF8? at h
    split at h
    · have htext := congrArg String.toByteArray (Option.some.inj h)
      rw [← toByteArray_encode text] at htext
      exact List.toByteArray_inj.1 htext
    · cases h
  · rintro rfl
    exact decode?_encode text

theorem lt_of_mem_encode {text : String} (h : ∀ c ∈ text.toList, c.toNat < 128) {b : UInt8}
    (hb : b ∈ encode text) : b.toNat < 128 := by
  obtain ⟨c, hc, hb⟩ := List.mem_flatMap.1 hb
  have hlt := h c hc
  have hval : c.val.toNat ≤ 0x7f := Nat.le_of_lt_succ hlt
  unfold String.utf8EncodeChar at hb
  simp only [if_pos hval, List.mem_singleton] at hb
  rw [hb, UInt8.toNat_ofNat', Nat.mod_eq_of_lt (by omega)]
  exact hlt

end MetricLedger.Text.Utf8
