import MetricLedger.Proofs.Decimal.Settled
import MetricLedger.Proofs.Stored.Items
import MetricLedger.Proofs.Stored.Numbers

/-!
# Steady codecs

What is written of an item that was read, by whomever it was stored, can be read again and is then
written alike for good. A row that is left as it is because it counts as the same gives the same
items as the one that would have been written.
-/

namespace MetricLedger

open Json (Value)

namespace Codec

variable {α : Type} [Timed α]

def Readable (codec : Codec α) (x : α) : Prop :=
  ∃ v y, codec.encode x = .ok v ∧ codec.decode v = .ok y

/-- A plain item leaves no choice of how the parts of it are spelled that are stored as they
are. -/
structure Steady (codec : Codec α) (plain : α → Prop) : Prop where
  settles : ∀ x v y, codec.encode x = .ok v → codec.decode v = .ok y → codec.Settles x y
  readable : ∀ w x v, codec.decode w = .ok x → codec.encode x = .ok v → codec.Readable x
  kept : ∀ x y v w z, codec.Settles x y → codec.encode x = .ok v → w.IsMachine →
    v.same w = true → codec.decode w = .ok z →
    time z = time x ∧ codec.Alike x z ∧ (plain x ∨ z = x → z = y)

end Codec

theorem Json.Value.eq_of_isText_of_same {v w : Value} (h : v.isText = true)
    (hsame : v.same w = true) : w = v := by
  cases v with
  | text s => exact Value.eq_of_same_text hsame
  | _ => cases h

/-! ## Metrics -/

theorem MetricType.eq_toStored_of_same {type : MetricType} {w : Value}
    (h : type.toStored.same w = true) : w = type.toStored := by
  cases type with
  | rate kind => exact Value.eq_of_same_text h
  | other name =>
    obtain ⟨others, rfl, hlength, hmembers⟩ := Value.same_object_iff.1 h
    obtain ⟨u, hlookup, hu⟩ := Value.lookup_of_sameMembers hmembers List.mem_cons_self
    match others, hlength with
    | [(field, v)], _ =>
      have hmem := Value.mem_of_lookup hlookup
      rw [List.mem_singleton] at hmem
      rw [← hmem, Value.eq_of_same_text hu]
      rfl

theorem Payload.eq_toStored_of_same {payload? : Option Payload} {w : Value}
    (h : (toStored payload?).same w = true) : w = toStored payload? := by
  cases payload? with
  | none => exact Value.eq_of_same_null h
  | some payload => exact Value.eq_of_same_text h

namespace Metric

def IsPlain (m : Metric) : Prop := m.key.isText = true ∧ m.value.isText = true

theorem ofStored_of_same {m z : Metric} {w : Value} (hw : w.IsMachine)
    (h : m.toStored.same w = true) (hz : ofStored w = .ok z) :
    z = { m with key := z.key, value := z.value } ∧ m.key.same z.key = true ∧
      m.value.same z.value = true := by
  obtain ⟨others, rfl, -, hmembers⟩ := Value.same_object_iff.1 h
  have hlookup : ∀ name v, (name, v) ∈ [("key", m.key), ("value", m.value),
      ("metric_type", m.type.toStored), ("update_time", .integer m.updateTime),
      ("block_height", .integer m.blockHeight), ("attributes", Payload.toStored m.attributes)] →
      ∃ u, others.lookup name = some u ∧ v.same u = true :=
    fun name v hmem => Value.lookup_of_sameMembers hmembers hmem
  obtain ⟨key, hkey, hsamekey⟩ := hlookup "key" m.key (by simp)
  obtain ⟨value, hvalue, hsamevalue⟩ := hlookup "value" m.value (by simp)
  obtain ⟨type, htype, hsametype⟩ := hlookup "metric_type" m.type.toStored (by simp)
  obtain ⟨time, htime, hsametime⟩ := hlookup "update_time" (.integer m.updateTime) (by simp)
  obtain ⟨height, hheight, hsameheight⟩ := hlookup "block_height" (.integer m.blockHeight) (by simp)
  obtain ⟨attributes, hattributes, hsameattributes⟩ :=
    hlookup "attributes" (Payload.toStored m.attributes) (by simp)
  -- but for the key and the value, what is read is what was written
  have hread : ofStored (.object others) =
      .ok ⟨key, value, m.type, m.updateTime, m.blockHeight, m.attributes⟩ := by
    simp [ofStored, Value.field, Value.member?, hkey, hvalue, htype, htime, hheight, hattributes,
      MetricType.eq_toStored_of_same hsametype, MetricType.ofStored_toStored,
      Value.toInteger_of_same (hw.of_lookup htime) hsametime,
      Value.toInteger_of_same (hw.of_lookup hheight) hsameheight,
      Payload.eq_toStored_of_same hsameattributes, Payload.ofStored_toStored,
      bind, Except.bind, pure, Except.pure]
  rw [hread] at hz
  cases hz
  exact ⟨rfl, hsamekey, hsamevalue⟩

theorem toStored_same {m : Metric} {key value : Value} (hkey : m.key.same key = true)
    (hvalue : m.value.same value = true) :
    m.toStored.same { m with key, value }.toStored = true := by
  have htype : m.type.toStored.same m.type.toStored = true := by
    cases m.type <;> simp [MetricType.toStored, Value.same, Value.sameMembers]
  have hattributes :
      (Payload.toStored m.attributes).same (Payload.toStored m.attributes) = true := by
    cases m.attributes <;> simp [Payload.toStored, Value.ofOption, Value.same]
  simp [toStored, Value.same, Value.sameMembers, List.lookup_cons, hkey, hvalue, htype, hattributes]

theorem codec_steady : codec.Steady IsPlain where
  settles x v y hencode hdecode := by
    cases hencode
    cases (ofStored_toStored x).symm.trans hdecode
    exact Codec.settles_of_settled x.settled
  readable w x v _ _ := ⟨x.toStored, x, rfl, ofStored_toStored x⟩
  kept x y v w z hsettles hencode hw hsame hdecode := by
    obtain ⟨-, v', hencode', hread, -⟩ := hsettles
    cases hencode
    cases hencode'
    cases (ofStored_toStored x).symm.trans hread
    obtain ⟨hz, hkey, hvalue⟩ := ofStored_of_same hw hsame hdecode
    refine ⟨by rw [hz]; rfl, .inr ⟨_, _, rfl, rfl, ?_⟩, fun hplain => ?_⟩
    · rw [hz]
      exact toStored_same hkey hvalue
    · rcases hplain with ⟨hk, hv⟩ | rfl
      · rw [hz, Value.eq_of_isText_of_same hk hkey, Value.eq_of_isText_of_same hv hvalue]
      · rfl

end Metric

/-! ## Rate records -/

namespace RateRecord

def IsPlain (r : RateRecord) : Prop := r.denom.isText = true

theorem form_same {kind : RateKind} {denom denom' : Value} (h : denom.same denom' = true)
    (text : String) (t : Int) :
    (form kind denom text t).same (form kind denom' text t) = true := by
  cases kind <;>
    simp [form, RateKind.label, Value.same, Value.sameMembers, List.lookup_cons, h]

theorem kind_of_decode_form {kind kind' : RateKind} {denom : Value} {text : String} {t : Int}
    {y : RateRecord} (h : ofStored kind (form kind' denom text t) = .ok y) : kind' = kind := by
  cases kind <;> cases kind' <;> first | rfl | cases h

theorem encode_eq_ok {r : RateRecord} {v : Value} (h : r.toStored = .ok v) :
    ∃ text settled, v = form r.kind r.denom text r.updateTime ∧
      Decimal.ofText? text = some settled ∧ settled.canonicalText? = some text := by
  obtain ⟨kind, denom, rate, t⟩ := r
  cases htext : rate.canonicalText? with
  | none => simp [toStored, rateText, htext, bind, Except.bind] at h
  | some text =>
    obtain ⟨settled, hread, hagain⟩ := Decimal.exists_settled htext
    exact ⟨text, settled, Except.ok.inj (h.symm.trans (toStored_eq htext)), hread, hagain⟩

theorem codec_steady (kind : RateKind) : (codec kind).Steady IsPlain where
  settles x v y hencode hdecode := by
    obtain ⟨text, settled, rfl, hread, hagain⟩ := encode_eq_ok hencode
    obtain ⟨kind', denom, rate, t⟩ := x
    cases kind_of_decode_form hdecode
    cases (ofStored_form hread).symm.trans hdecode
    exact ⟨rfl, _, hencode, ofStored_form hread, toStored_eq hagain⟩
  readable w x v hdecode hencode := by
    obtain ⟨text, settled, rfl, hread, -⟩ := encode_eq_ok hencode
    cases kind_of_ofStored hdecode
    exact ⟨_, _, hencode, ofStored_form hread⟩
  kept x y v w z hsettles hencode hw hsame hdecode := by
    obtain ⟨-, v', hencode', hread', -⟩ := hsettles
    cases hencode.symm.trans hencode'
    obtain ⟨text, settled, rfl, hread, hagain⟩ := encode_eq_ok hencode
    obtain ⟨kind', denom, rate, t⟩ := x
    cases kind_of_decode_form hread'
    cases (ofStored_form hread).symm.trans hread'
    obtain ⟨others, rfl, -, hmembers⟩ := Value.same_object_iff.1 hsame
    have hlookup : ∀ name v, (name, v) ∈ [("denom", denom), (kind'.label, .text text),
        ("update_time", .integer t)] → ∃ u, others.lookup name = some u ∧ v.same u = true :=
      fun name v hmem => Value.lookup_of_sameMembers hmembers hmem
    obtain ⟨denom', hdenom, hsamedenom⟩ := hlookup "denom" denom (by simp)
    obtain ⟨text', htext, hsametext⟩ := hlookup kind'.label (.text text) (by simp)
    obtain ⟨time', htime, hsametime⟩ := hlookup "update_time" (.integer t) (by simp)
    -- but for the denom, what is read is what would be read of the written record
    have hz : ofStored kind' (.object others) = .ok ⟨kind', denom', settled, t⟩ := by
      simp [ofStored, Value.field, hdenom, htext, htime, Value.eq_of_same_text hsametext,
        Decimal.ofValue, hread, Value.toInteger_of_same (hw.of_lookup htime) hsametime,
        bind, Except.bind, pure, Except.pure]
    cases hz.symm.trans hdecode
    refine ⟨rfl, .inr ⟨_, _, hencode, toStored_eq hagain, form_same hsamedenom text t⟩,
      fun hplain => ?_⟩
    rcases hplain with hd | heq
    · rw [Value.eq_of_isText_of_same hd hsamedenom]
    · cases heq
      rfl

end RateRecord

end MetricLedger
