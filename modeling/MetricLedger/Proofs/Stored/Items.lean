import MetricLedger.RateRecord
import MetricLedger.Proofs.Decimal.Canonical
import MetricLedger.Proofs.Results
import MetricLedger.Proofs.Stored.Payload
import MetricLedger.Proofs.Stored.Same

/-!
# Stored items

What is read back of an item that was written: a metric is the same metric, and a rate record has
its rate rounded, once and for all. A row is not written anew where it holds the same values
already, so it is also said when two stored items count as the same.
-/

namespace MetricLedger

open Json (Value)

namespace Codec

variable {α : Type} [Timed α]

def Settles (codec : Codec α) (x y : α) : Prop :=
  time y = time x ∧
    ∃ v, codec.encode x = .ok v ∧ codec.decode v = .ok y ∧ codec.encode y = .ok v

def Settled (codec : Codec α) (x : α) : Prop := ∃ v, codec.encode x = .ok v ∧ codec.decode v = .ok x

/-- A row that holds the second item may keep it for the first one. -/
def Alike (codec : Codec α) (x y : α) : Prop :=
  x = y ∨ ∃ v w, codec.encode x = .ok v ∧ codec.encode y = .ok w ∧ v.same w = true

theorem settled_of_settles {codec : Codec α} {x y : α} (h : codec.Settles x y) :
    codec.Settled y := by
  obtain ⟨-, v, -, hdecode, hencode⟩ := h
  exact ⟨v, hencode, hdecode⟩

theorem settles_of_settled {codec : Codec α} {x : α} (h : codec.Settled x) : codec.Settles x x := by
  obtain ⟨v, hencode, hdecode⟩ := h
  exact ⟨rfl, v, hencode, hdecode, hencode⟩

end Codec

/-! ## Types -/

theorem MetricType.eq_of_same {type other : MetricType}
    (h : type.toStored.same other.toStored = true) : other = type := by
  cases type with
  | rate kind =>
    have heq := Value.eq_of_same_text h
    cases other with
    | rate kind' => rw [RateKind.label_injective (Value.text.inj heq)]
    | other name => cases heq
  | other name =>
    obtain ⟨members, heq, -, hmembers⟩ := Value.same_object_iff.1 h
    cases other with
    | rate kind => cases heq
    | other name' =>
      cases heq
      simp only [Value.sameMembers, List.lookup_cons_self, Bool.and_true] at hmembers
      rw [Value.text.inj (Value.eq_of_same_text hmembers)]

theorem Payload.eq_of_same {payload? other? : Option Payload}
    (h : (toStored payload?).same (toStored other?) = true) : other? = payload? := by
  refine toStored_injective ?_
  cases payload? with
  | none => exact Value.eq_of_same_null h
  | some payload => exact Value.eq_of_same_text h

/-! ## Metrics -/

namespace Metric

theorem ofStored_toStored (m : Metric) : ofStored m.toStored = .ok m := by
  have htype := MetricType.ofStored_toStored m.type
  have hattributes := Payload.ofStored_toStored m.attributes
  simp [ofStored, toStored, Value.field, Value.member?, List.lookup_cons, Value.toInteger, htype,
    hattributes, bind, Except.bind, pure, Except.pure]

theorem settled (m : Metric) : codec.Settled m := ⟨m.toStored, rfl, ofStored_toStored m⟩

/-- The two differ in nothing but numbers within their values, which are of the same amounts. A
text is like no other value. -/
structure Resembles (m other : Metric) : Prop where
  named : other.key.isText = true
  key : m.key = other.key
  value : m.value = other.value ∨ other.value.same m.value = true
  type : m.type = other.type
  updateTime : m.updateTime = other.updateTime
  blockHeight : m.blockHeight = other.blockHeight
  attributes : m.attributes = other.attributes

theorem Resembles.refl {m : Metric} (h : m.key.isText = true) : Resembles m m :=
  ⟨h, rfl, .inl rfl, rfl, rfl, rfl, rfl⟩

theorem Resembles.value_eq {m other : Metric} (h : Resembles m other) {text : String}
    (htext : other.value = .text text) : m.value = .text text := by
  rcases h.value with heq | hsame
  · rw [heq, htext]
  · rw [htext] at hsame
    exact Value.eq_of_same_text hsame

theorem Resembles.eq_of_text {m other : Metric} (h : Resembles m other) {text : String}
    (htext : other.value = .text text) : m = other := by
  cases m
  cases other
  simp only [mk.injEq]
  exact ⟨h.key, (h.value_eq htext).trans htext.symm, h.type, h.updateTime, h.blockHeight,
    h.attributes⟩

theorem Resembles.of_alike {m kept other : Metric} (h : codec.Alike m kept)
    (h' : Resembles m other) : Resembles kept other := by
  rcases h with rfl | ⟨v, w, hv, hw, hsame⟩
  · exact h'
  · cases hv
    cases hw
    obtain ⟨_, heq, -, hmembers⟩ := Value.same_object_iff.1 hsame
    cases heq
    simp only [Value.sameMembers, List.lookup_cons, Bool.and_eq_true, beq_self_eq_true] at hmembers
    obtain ⟨hk, hv, ht, hu, hb, ha, -⟩ := hmembers
    simp at hv ht hu hb ha
    refine ⟨h'.named, ?_, ?_, ?_, ?_, ?_, ?_⟩
    · rw [h'.key] at hk
      have hnamed := h'.named
      cases hother : other.key with
      | text key => rw [hother] at hk; exact Value.eq_of_same_text hk
      | _ => rw [hother] at hnamed; cases hnamed
    · rcases h'.value with heq | hvalue
      · exact .inr (heq ▸ hv)
      · exact .inr (Value.same_trans _ hvalue hv)
    · rw [MetricType.eq_of_same ht, h'.type]
    · rw [Value.same_integer] at hu
      exact (of_decide_eq_true hu).symm.trans h'.updateTime
    · rw [Value.same_integer] at hb
      exact (of_decide_eq_true hb).symm.trans h'.blockHeight
    · rw [Payload.eq_of_same ha, h'.attributes]

end Metric

/-! ## Rate records -/

namespace RateRecord

variable {kind : RateKind} {denom : Value} {t : Int}

def form (kind : RateKind) (denom : Value) (text : String) (t : Int) : Value :=
  .object [("denom", denom), (kind.label, .text text), ("update_time", .integer t)]

theorem toStored_eq {rate : Decimal} {text : String} (h : rate.canonicalText? = some text) :
    toStored ⟨kind, denom, rate, t⟩ = .ok (form kind denom text t) := by
  simp [toStored, rateText, form, h, bind, Except.bind, pure, Except.pure]

theorem toStored_eq_ok {r : RateRecord} {v : Value} (h : r.toStored = .ok v) :
    ∃ text, v = form r.kind r.denom text r.updateTime := by
  cases htext : r.rate.canonicalText? with
  | some text => exact ⟨text, Except.ok.inj (h.symm.trans (toStored_eq htext))⟩
  | none => simp [toStored, rateText, htext, bind, Except.bind] at h

theorem ofStored_form {rate : Decimal} {text : String} (h : Decimal.ofText? text = some rate) :
    ofStored kind (form kind denom text t) = .ok ⟨kind, denom, rate, t⟩ := by
  cases kind <;>
    simp [ofStored, form, RateKind.label, Value.field, List.lookup_cons, Decimal.ofValue, h,
      Value.toInteger, bind, Except.bind, pure, Except.pure]

theorem kind_of_ofStored {v : Value} {r : RateRecord} (h : ofStored kind v = .ok r) :
    r.kind = kind := by
  simp only [ofStored, bind_eq_ok_iff] at h
  obtain ⟨_, -, rate, -, denom, -, _, -, t, -, h⟩ := h
  cases h
  rfl

theorem form_eq_of_same {denom text text' : String} {denom' : Value} {t' : Int}
    (h : (form kind (.text denom) text t).same (form kind denom' text' t') = true) :
    form kind denom' text' t' = form kind (.text denom) text t := by
  obtain ⟨_, heq, -, hmembers⟩ := Value.same_object_iff.1 h
  cases heq
  have hne : kind.label ≠ "denom" ∧ "update_time" ≠ kind.label := by cases kind <;> decide
  have hlabel : (kind.label == "denom") = false := beq_eq_false_iff_ne.2 hne.1
  have htime : ("update_time" == kind.label) = false := beq_eq_false_iff_ne.2 hne.2
  simp [Value.sameMembers, List.lookup_cons, hlabel, htime, Value.same_text,
    Value.same_integer] at hmembers
  obtain ⟨hdenom, rfl, rfl⟩ := hmembers
  rw [Value.eq_of_same_text hdenom]

structure IsReadBackOf (r posted : RateRecord) : Prop where
  kind : r.kind = posted.kind
  denom : r.denom = posted.denom
  named : posted.denom.isText = true
  updateTime : r.updateTime = posted.updateTime
  rate : ∃ text, posted.rate.canonicalText? = some text ∧ Decimal.ofText? text = some r.rate ∧
    r.rate.canonicalText? = some text

theorem IsReadBackOf.toStored_eq {r posted : RateRecord} (h : IsReadBackOf r posted) :
    ∃ v, posted.toStored = .ok v ∧ r.toStored = .ok v ∧ ofStored r.kind v = .ok r := by
  obtain ⟨kind, denom, rate, t⟩ := posted
  obtain ⟨kind', denom', rate', t'⟩ := r
  obtain ⟨rfl, rfl, hnamed, rfl, text, htext, hread, hagain⟩ := h
  cases denom' with
  | text denom =>
    exact ⟨_, RateRecord.toStored_eq htext, RateRecord.toStored_eq hagain, ofStored_form hread⟩
  | _ => cases hnamed

theorem exists_isReadBackOf {text : String} {rate : Decimal} (h : Rate.ofText text = .ok rate)
    (kind : RateKind) (denom : String) (t : Int) :
    ∃ r, IsReadBackOf r ⟨kind, .text denom, rate, t⟩ := by
  obtain ⟨canonical, settled, htext, -, hread, hagain⟩ := Rate.exists_canonicalText h
  exact ⟨⟨kind, .text denom, settled, t⟩, rfl, rfl, rfl, rfl, canonical, htext, hread, hagain⟩

theorem IsReadBackOf.settles {r posted : RateRecord} (h : IsReadBackOf r posted) :
    (codec r.kind).Settles posted r := by
  obtain ⟨v, hposted, hr, hread⟩ := h.toStored_eq
  exact ⟨h.updateTime, v, hposted, hread, hr⟩

theorem IsReadBackOf.of_alike {r kept posted : RateRecord} (h : (codec r.kind).Alike r kept)
    (hkept : (codec r.kind).Settled kept) (h' : IsReadBackOf r posted) :
    IsReadBackOf kept posted := by
  obtain ⟨v, -, hr, hread⟩ := h'.toStored_eq
  rcases h with rfl | ⟨v', w, hv, hw, hsame⟩
  · exact h'
  · obtain ⟨w', hw', hkeptread⟩ := hkept
    cases hr.symm.trans hv
    cases hw.symm.trans hw'
    have hkind := kind_of_ofStored hkeptread
    obtain ⟨text, rfl⟩ := toStored_eq_ok hr
    obtain ⟨text', rfl⟩ := toStored_eq_ok hw
    have hnamed := h'.named
    rw [← h'.denom] at hnamed
    cases hdenom : r.denom with
    | text denom =>
      rw [hkind, hdenom] at hsame
      rw [hdenom, ← form_eq_of_same hsame, ← hkind] at hread
      rw [hkind] at hkeptread hread
      cases hkeptread.symm.trans hread
      exact h'
    | _ => rw [hdenom] at hnamed; cases hnamed

end RateRecord

end MetricLedger
