import MetricLedger.Attributes

/-!
# Bytes in base 64

Bytes are read back from their base 64 text, so payloads are read back from their stored form.
-/

namespace MetricLedger

namespace Text.Base64

theorem sixBits?_symbol : ∀ n < 64, sixBits? (symbol n) = some n := by decide

theorem symbol_ne_pad : ∀ n < 64, symbol n ≠ '=' := by decide

theorem symbol_lt : ∀ n < 64, (symbol n).toNat < 128 := by decide

theorem ofNat_eq_of_toNat {a : UInt8} {n : Nat} (h : n = a.toNat) : UInt8.ofNat n = a := by
  rw [h, UInt8.ofNat_toNat]

section
variable {x y z w : Nat} (hx : x < 64) (hy : y < 64) (hz : z < 64) (hw : w < 64)

include hx hy in
theorem decodeGroups_one :
    decodeGroups [symbol x, symbol y, '=', '='] = some [UInt8.ofNat (x * 4 + y / 16)] := by
  rw [decodeGroups]
  · rw [sixBits?_symbol x hx, sixBits?_symbol y hy]
    rfl
  · exact symbol_ne_pad x hx

include hx hy hz in
theorem decodeGroups_two :
    decodeGroups [symbol x, symbol y, symbol z, '='] =
      some [UInt8.ofNat (x * 4 + y / 16), UInt8.ofNat (y % 16 * 16 + z / 4)] := by
  rw [decodeGroups]
  · rw [sixBits?_symbol x hx, sixBits?_symbol y hy, sixBits?_symbol z hz]
    rfl
  · exact symbol_ne_pad x hx
  · exact symbol_ne_pad z hz

include hx hy hz hw in
theorem decodeGroups_three (rest : List Char) :
    decodeGroups (symbol x :: symbol y :: symbol z :: symbol w :: rest) =
      (decodeGroups rest).map fun bytes =>
        UInt8.ofNat (x * 4 + y / 16) :: UInt8.ofNat (y % 16 * 16 + z / 4) ::
          UInt8.ofNat (z % 4 * 64 + w) :: bytes := by
  have hpad := symbol_ne_pad w hw
  rw [decodeGroups]
  · rw [sixBits?_symbol x hx, sixBits?_symbol y hy, sixBits?_symbol z hz, sixBits?_symbol w hw]
    cases decodeGroups rest <;> rfl
  · exact symbol_ne_pad x hx
  · exact fun _ h => absurd h hpad
  · exact fun h => absurd h hpad

end

theorem decodeGroups_encode (bytes : List UInt8) : decodeGroups (encode bytes) = some bytes := by
  induction bytes using encode.induct with
  | case1 => rfl
  | case2 a =>
    have ha := a.toNat_lt
    rw [encode, pad, decodeGroups_one (by omega) (by omega), ofNat_eq_of_toNat (a := a) (by omega)]
  | case3 a b =>
    have ha := a.toNat_lt
    have hb := b.toNat_lt
    rw [encode, pad, decodeGroups_two (by omega) (by omega) (by omega),
      ofNat_eq_of_toNat (a := a) (by omega), ofNat_eq_of_toNat (a := b) (by omega)]
  | case4 a b c rest ih =>
    have ha := a.toNat_lt
    have hb := b.toNat_lt
    have hc := c.toNat_lt
    rw [encode, decodeGroups_three (by omega) (by omega) (by omega) (by omega), ih,
      Option.map_some, ofNat_eq_of_toNat (a := a) (by omega),
      ofNat_eq_of_toNat (a := b) (by omega), ofNat_eq_of_toNat (a := c) (by omega)]

theorem head?_encode (bytes : List UInt8) : (encode bytes).head? ≠ some pad := by
  unfold encode
  split
  · simp
  · rename_i a
    have := a.toNat_lt
    exact fun h => symbol_ne_pad _ (by omega) (Option.some.inj h)
  · rename_i a b
    have := a.toNat_lt
    have := b.toNat_lt
    exact fun h => symbol_ne_pad _ (by omega) (Option.some.inj h)
  · rename_i a b c _
    have := a.toNat_lt
    have := b.toNat_lt
    have := c.toNat_lt
    exact fun h => symbol_ne_pad _ (by omega) (Option.some.inj h)

theorem decode?_encode (bytes : List UInt8) : decode? (encode bytes) = some bytes := by
  rw [decode?, if_neg (head?_encode bytes), decodeGroups_encode]

theorem lt_of_mem_encode {c : Char} {bytes : List UInt8} (h : c ∈ encode bytes) :
    c.toNat < 128 := by
  induction bytes using encode.induct with
  | case1 => cases h
  | case2 a =>
    have := a.toNat_lt
    simp only [encode, List.mem_cons, List.not_mem_nil, or_false] at h
    rcases h with rfl | rfl | rfl | rfl
    · exact symbol_lt _ (by omega)
    · exact symbol_lt _ (by omega)
    · decide
    · decide
  | case3 a b =>
    have := a.toNat_lt
    have := b.toNat_lt
    simp only [encode, List.mem_cons, List.not_mem_nil, or_false] at h
    rcases h with rfl | rfl | rfl | rfl
    · exact symbol_lt _ (by omega)
    · exact symbol_lt _ (by omega)
    · exact symbol_lt _ (by omega)
    · decide
  | case4 a b c rest ih =>
    have := a.toNat_lt
    have := b.toNat_lt
    have := c.toNat_lt
    simp only [encode, List.mem_cons] at h
    rcases h with rfl | rfl | rfl | rfl | h
    · exact symbol_lt _ (by omega)
    · exact symbol_lt _ (by omega)
    · exact symbol_lt _ (by omega)
    · exact symbol_lt _ (by omega)
    · exact ih h

end Text.Base64

namespace Payload

theorem ofText_text (payload : Payload) : ofText payload.text = .ok payload := by
  have hascii : ¬(text payload).toList.any (fun c => decide (128 ≤ c.toNat)) = true := by
    rw [text, String.toList_ofList, List.any_eq_true]
    rintro ⟨c, hc, hle⟩
    have := Text.Base64.lt_of_mem_encode hc
    have := of_decide_eq_true hle
    omega
  rw [ofText, if_neg hascii, text, String.toList_ofList, Text.Base64.decode?_encode]

theorem ofStored_toStored (payload? : Option Payload) :
    ofStored (toStored payload?) = .ok payload? := by
  cases payload? with
  | none => rfl
  | some payload =>
    show (ofText payload.text).map some = _
    rw [ofText_text]
    rfl

theorem toStored_injective {payload? other? : Option Payload}
    (h : toStored payload? = toStored other?) : payload? = other? := by
  have := ofStored_toStored payload?
  rw [h, ofStored_toStored] at this
  exact (Except.ok.inj this).symm

end Payload

end MetricLedger
