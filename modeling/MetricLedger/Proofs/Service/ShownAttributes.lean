import MetricLedger.Proofs.Service.Entries
import MetricLedger.Proofs.Stored.Payload
import MetricLedger.Service

/-!
# Shown attributes

The acknowledgment of a post shows the attributes in base 64, or that there are none. The bytes are
read back from what is shown; but what stands for absent attributes is also the base 64 text of three
bytes.
-/

namespace MetricLedger

open Storage (Action Database)

/-! ## What an action gives -/

namespace Storage

def Action.Gives {α : Type} (action : Action α) (P : α → Prop) : Prop :=
  ∀ v x, (action.run v).1 = .ok x → P x

namespace Action

variable {α β : Type} {P : α → Prop} {Q : β → Prop}

theorem gives_any (action : Action α) : action.Gives fun _ => True := fun _ _ _ => trivial

theorem gives_pure {x : α} (h : P x) : (pure x : Action α).Gives P := by
  intro v y hy
  cases hy
  exact h

theorem gives_refuse (refusal : Refusal) : (refuse refusal : Action α).Gives P := by
  intro v x hx
  cases hx

theorem gives_ofChecked (checked : Except Refusal α) :
    (ofChecked checked).Gives fun x => checked = .ok x := by
  cases checked with
  | error refusal => exact gives_refuse refusal
  | ok x => exact gives_pure rfl

theorem Gives.bind {x : Action α} {f : α → Action β} (h : x.Gives P)
    (h' : ∀ a, P a → (f a).Gives Q) : (x >>= f).Gives Q := by
  intro v b hb
  change ((ExceptT.bindCont f (x.run v).1).run (x.run v).2).1 = .ok b at hb
  cases hx : (x.run v).1 with
  | error e =>
    rw [hx] at hb
    cases hb
  | ok a =>
    rw [hx] at hb
    exact h' a (h v a hx) _ b hb

/-- What comes before is left out of account. -/
theorem gives_after (x : Action α) {f : α → Action β} (h : ∀ a, (f a).Gives Q) :
    (x >>= f).Gives Q :=
  (gives_any x).bind fun a _ => h a

theorem Gives.transaction {action : Action α} (h : action.Gives P) {db : Database} {x : α}
    (hx : (db.transaction action).1 = .ok x) : P x := by
  unfold Database.transaction Session.perform at hx
  change (Session.finish ⟨db, (action.run (View.ofDatabase db)).2⟩
    (action.run (View.ofDatabase db)).1).1 = .ok x at hx
  cases hresult : (action.run (View.ofDatabase db)).1 with
  | error e =>
    rw [hresult] at hx
    cases hx
  | ok y =>
    rw [hresult, Session.finish] at hx
    split at hx
    · cases hx
      exact h _ x hresult
    · cases hx

end Action

end Storage

theorem Submission.gives_submit (capacity : Int) (s : Submission) :
    (s.submit capacity).Gives fun m => s.metric = .ok m := by
  rw [submit_eq]
  refine (Action.gives_ofChecked s.metric).bind fun m hm => ?_
  exact Action.gives_after _ fun _ => Action.gives_after _ fun _ => Action.gives_pure hm

theorem Service.posted_of_post {service : Service} {sender : Option String} {s : Submission}
    {db : Database} {a : Acknowledgment} (h : (service.post sender s db).1 = .ok a) :
    ∃ m, s.metric = .ok m ∧ a = .posted m := by
  refine Action.Gives.transaction (P := fun a => ∃ m, s.metric = .ok m ∧ a = .posted m) ?_ h
  refine Action.gives_after _ fun row => ?_
  have hposted : (s.submit service.capacity >>= fun m => pure (Acknowledgment.posted m)).Gives
      fun a => ∃ m, s.metric = .ok m ∧ a = .posted m :=
    (s.gives_submit service.capacity).bind fun m hm => Action.gives_pure ⟨m, hm, rfl⟩
  split
  · exact Action.gives_after _ fun _ => hposted
  · exact hposted

/-! ## What attributes look like -/

namespace Payload

/-- The bytes whose text is also what stands for attributes that are not there. -/
def lookalike : Payload := [0x36, 0x89, 0xde]

def LooksAbsent (payload? : Option Payload) : Prop := payload? = none ∨ payload? = some lookalike

instance (payload? : Option Payload) : Decidable (LooksAbsent payload?) :=
  inferInstanceAs (Decidable (_ ∨ _))

theorem text_injective {payload other : Payload} (h : payload.text = other.text) :
    payload = other := by
  have hstored : toStored (some payload) = toStored (some other) := congrArg Json.Value.text h
  exact Option.some.inj (toStored_injective hstored)

theorem text_lookalike : lookalike.text = Acknowledgment.absent := rfl

end Payload

namespace Acknowledgment

variable {payload? other? : Option Payload}

theorem attributesText_some {payload : Payload} (h : payload ≠ []) :
    attributesText (some payload) = payload.text := by
  have hempty : payload.text ≠ "" := fun htext =>
    h (Payload.text_injective (show payload.text = Payload.text [] from htext))
  rw [attributesText, Option.map_some]
  split
  · rename_i heq
    cases heq
  · rename_i heq
    exact absurd (Option.some.inj heq) hempty
  · rename_i heq
    exact (Option.some.inj heq).symm

theorem attributesText_eq_absent_iff (h : payload? ≠ some []) :
    attributesText payload? = absent ↔ Payload.LooksAbsent payload? := by
  cases payload? with
  | none => exact iff_of_true rfl (.inl rfl)
  | some payload =>
    rw [attributesText_some fun hnil => h (congrArg some hnil), ← Payload.text_lookalike]
    constructor
    · exact fun htext => .inr (congrArg some (Payload.text_injective htext))
    · rintro (hnone | hsome)
      · cases hnone
      · exact congrArg Payload.text (Option.some.inj hsome)

theorem attributesText_eq_iff (h : payload? ≠ some []) (h' : other? ≠ some []) :
    attributesText payload? = attributesText other? ↔
      payload? = other? ∨ Payload.LooksAbsent payload? ∧ Payload.LooksAbsent other? := by
  constructor
  · intro htext
    by_cases habsent : attributesText payload? = absent
    · exact .inr ⟨(attributesText_eq_absent_iff h).1 habsent,
        (attributesText_eq_absent_iff h').1 (htext ▸ habsent)⟩
    · have habsent' : attributesText other? ≠ absent := htext ▸ habsent
      cases payload? with
      | none => exact absurd rfl habsent
      | some payload =>
        cases other? with
        | none => exact absurd rfl habsent'
        | some other =>
          rw [attributesText_some fun hnil => h (congrArg some hnil),
            attributesText_some fun hnil => h' (congrArg some hnil)] at htext
          exact .inl (congrArg some (Payload.text_injective htext))
  · rintro (rfl | ⟨habsent, habsent'⟩)
    · rfl
    · rw [(attributesText_eq_absent_iff h).2 habsent, (attributesText_eq_absent_iff h').2 habsent']

theorem posted_eq_iff (m : Metric) :
    posted { m with attributes := other? } = posted { m with attributes := payload? } ↔
      attributesText other? = attributesText payload? := by
  simp [posted]

end Acknowledgment

theorem Submission.metric_with_attributes (s : Submission) (attributes : Option Payload) :
    { s with attributes := attributes }.metric =
      s.metric.map fun m => { m with attributes := attributes } := by
  unfold metric
  dsimp only
  split
  · rfl
  · cases word "update_time" s.updateTime with
    | error refusal => rfl
    | ok time => cases word "block_height" s.blockHeight <;> rfl

namespace Service

/-- **The acknowledgment of a post shows its attributes.** Unless they are there without a byte, they
are read back from what is shown, and shown as absent only if they look so. Hence two posts that
differ in nothing else are acknowledged alike only if both look absent. -/
theorem post_shows_attributes {service : Service} {sender : Option String} {s : Submission}
    {db : Database} {a : Acknowledgment} (h : (service.post sender s db).1 = .ok a)
    (hbytes : s.attributes ≠ some []) :
    ∃ text, a.get? "metric_attributes" = some (.text text) ∧
      (text = "None" ↔ Payload.LooksAbsent s.attributes) ∧
      (∀ payload, s.attributes = some payload →
        Payload.ofStored (.text text) = .ok (some payload)) ∧
      ∀ (service' : Service) (sender' : Option String) (db' : Database)
        (attributes : Option Payload) (a' : Acknowledgment),
        (service'.post sender' { s with attributes := attributes } db').1 = .ok a' →
        attributes ≠ some [] →
        (a' = a ↔ attributes = s.attributes ∨
          Payload.LooksAbsent attributes ∧ Payload.LooksAbsent s.attributes) := by
  obtain ⟨m, hm, rfl⟩ := posted_of_post h
  obtain ⟨-, -, hattributes⟩ := Submission.parts_of_metric hm
  refine ⟨Acknowledgment.attributesText s.attributes, ?_,
    Acknowledgment.attributesText_eq_absent_iff hbytes, fun payload hpayload => ?_,
    fun service' sender' db' attributes a' h' hbytes' => ?_⟩
  · rw [← hattributes]
    rfl
  · rw [hpayload] at hbytes
    rw [hpayload, Acknowledgment.attributesText_some fun hnil => hbytes (congrArg some hnil)]
    exact Payload.ofStored_toStored (some payload)
  · obtain ⟨m', hm', rfl⟩ := posted_of_post h'
    rw [Submission.metric_with_attributes, hm] at hm'
    cases hm'
    rw [← Acknowledgment.attributesText_eq_iff hbytes' hbytes, ← hattributes]
    exact Acknowledgment.posted_eq_iff m

def ready : Database := (instantiate {} ⟨"a", none⟩ Database.blank.create).2

def remark (attributes : Option Payload) : Submission where
  key := "k"
  value := .text "1"
  type := .other "x"
  updateTime := .integer 1
  blockHeight := .integer 1
  attributes := attributes

theorem post_shows_attributes_byte :
    ∃ a a', (post {} (some "a") (remark (some [0xff])) ready).1 = .ok a ∧
      (post {} (some "a") (remark none) ready).1 = .ok a' ∧ a' ≠ a ∧
      ∃ text, a.get? "metric_attributes" = some (.text text) ∧ text ≠ "None" ∧
        Payload.ofStored (.text text) = .ok (some [0xff]) := by
  have hposted : (post {} (some "a") (remark (some [0xff])) ready).1 =
      .ok (.posted ⟨.text "k", .text "1", .other "x", 1, 1, some [0xff]⟩) := by decide +kernel
  have hposted' : (post {} (some "a") (remark none) ready).1 =
      .ok (.posted ⟨.text "k", .text "1", .other "x", 1, 1, none⟩) := by decide +kernel
  have hlooks : ¬Payload.LooksAbsent (some [0xff]) := by decide
  obtain ⟨text, hshown, hnone, hread, hdiffer⟩ := post_shows_attributes hposted (by decide)
  refine ⟨_, _, hposted, hposted', fun heq => ?_, text, hshown, fun h => hlooks (hnone.1 h),
    hread _ rfl⟩
  rcases (hdiffer {} (some "a") ready none _ hposted' nofun).1 heq with h | h
  · cases h
  · exact hlooks h.2

/-- Bytes that look absent are shown as absent, and so are no bytes. The posts are made one after
the other. -/
theorem post_shows_alike :
    let first := post {} (some "a") (remark none) ready
    let second := post {} (some "a") (remark (some [0x36, 0x89, 0xde])) first.2
    let third := post {} (some "a") (remark (some [])) second.2
    ∃ a, first.1 = .ok a ∧ second.1 = .ok a ∧ third.1 = .ok a ∧
      a.get? "metric_attributes" = some (.text "None") :=
  ⟨.posted ⟨.text "k", .text "1", .other "x", 1, 1, none⟩, by decide +kernel, by decide +kernel,
    by decide +kernel, rfl⟩

end Service

end MetricLedger
