import MetricLedger.Submission
import MetricLedger.Proofs.Stored.Histories

/-!
# Entries of submissions

A submission makes an entry under its key, and one under its denom if it is a rate. What submitting
does to the rows is said against the entries of all submissions so far.
-/

namespace MetricLedger

open Json (Value)
open Storage (Action TableName Tables)

namespace Submission

def enteredMetric? (key : String) : Int × Submission → Option (Int × Metric)
  | (capacity, s) =>
    match s.metric with
    | .ok m => if s.key = key then some (capacity, m) else none
    | .error _ => none

def enteredRate? (kind : RateKind) (denom : String) : Int × Submission → Option (Int × RateRecord)
  | (capacity, s) =>
    match s.metric, s.rate with
    | .ok m, .ok (named, rate) =>
      if s.type.rateKind? = some kind ∧ named = denom then
        some (capacity, ⟨kind, .text denom, rate, m.updateTime⟩)
      else none
    | _, _ => none

end Submission

/-- The rows against submissions with the capacities that were asked for: those whose metrics and
those whose rates were recorded. -/
structure Storage.Tables.Follow (t : Tables) (metrics rates : List (Int × Submission)) : Prop where
  metrics : ∀ key, Store.metrics.Follows Metric.Resembles t key
    (metrics.filterMap (Submission.enteredMetric? key))
  rates : ∀ kind denom, (Store.rates kind).Follows RateRecord.IsReadBackOf t denom
    (rates.filterMap (Submission.enteredRate? kind denom))

theorem Metric.renders : codec.Renders Resembles where
  time _ _ h := h.updateTime
  kept _ _ _ _ _ h h' := h'.of_alike h

theorem RateRecord.renders (kind : RateKind) : (codec kind).Renders IsReadBackOf where
  time _ _ h := h.updateTime
  kept r kept posted hr hkept h h' := by
    obtain ⟨v, -, hread⟩ := hr
    cases kind_of_ofStored hread
    exact h'.of_alike h hkept

theorem Storage.Tables.follow_empty : empty.Follow [] [] where
  metrics _ := Store.follows_nil rfl
  rates kind _ := by cases kind <;> exact Store.follows_nil rfl

theorem Storage.Tables.Follow.of_table_eq {t t' : Tables} {metrics rates : List (Int × Submission)}
    (h : t.Follow metrics rates) (heq : t'.table = t.table) : t'.Follow metrics rates where
  metrics key := (h.metrics key).of_row_eq (by rw [heq])
  rates kind denom := (h.rates kind denom).of_row_eq (by rw [heq])

theorem rateTable_injective {kind kind' : RateKind}
    (h : Store.rateTable kind = Store.rateTable kind') : kind = kind' := by
  cases kind <;> cases kind' <;> first | rfl | cases h

theorem rateTable_ne_metrics (kind : RateKind) : Store.rateTable kind ≠ .metrics := by
  cases kind <;> nofun

namespace Submission

variable {s : Submission} {m : Metric} {t : Tables} {metrics rates : List (Int × Submission)}

theorem word_eq_ok {field : String} {v : Value} {n : Int} (h : word field v = .ok n) :
    v = .integer n := by
  cases v with
  | integer n =>
    simp only [word] at h
    split at h
    · cases h
      rfl
    · cases h
  | _ => cases h

theorem metric_eq_ok (h : s.metric = .ok m) :
    m.key = .text s.key ∧ s.updateTime = .integer m.updateTime := by
  unfold metric at h
  split at h
  · cases h
  · obtain ⟨time, htime, h⟩ := bind_eq_ok_iff.1 h
    obtain ⟨height, -, h⟩ := bind_eq_ok_iff.1 h
    cases h
    exact ⟨rfl, word_eq_ok htime⟩

theorem updateTime_eq_iff {s' : Submission} {m' : Metric} (h : s.metric = .ok m)
    (h' : s'.metric = .ok m') : s'.updateTime = s.updateTime ↔ m'.updateTime = m.updateTime := by
  rw [(metric_eq_ok h).2, (metric_eq_ok h').2, Value.integer.injEq]

theorem parts_of_metric (h : s.metric = .ok m) :
    m.value = s.value ∧ m.type = s.type ∧ m.attributes = s.attributes := by
  unfold metric at h
  split at h
  · cases h
  · obtain ⟨time, -, h⟩ := bind_eq_ok_iff.1 h
    obtain ⟨height, -, h⟩ := bind_eq_ok_iff.1 h
    cases h
    exact ⟨rfl, rfl, rfl⟩

theorem denom_eq_ok {denom : String} (h : s.denom = .ok denom) :
    ∃ payload, s.attributes = some payload ∧ RateAttributes.decode? payload = some denom := by
  unfold Submission.denom at h
  split at h
  · cases h
  · rename_i payload hpayload
    split at h
    · cases h
    · rename_i found hfound
      cases h
      exact ⟨payload, hpayload, hfound⟩

theorem rate_eq_ok {denom : String} {rate : Decimal} (h : s.rate = .ok (denom, rate)) :
    s.denom = .ok denom ∧ ∃ text, s.value = .text text ∧ Rate.ofText text = .ok rate := by
  unfold Submission.rate at h
  cases hdenom : s.denom with
  | error refusal => rw [hdenom] at h; cases h
  | ok named =>
    rw [hdenom] at h
    cases hvalue : s.value with
    | text text =>
      cases hrate : Rate.ofText text with
      | error fault => simp [hvalue, rateOf, hrate, Except.map] at h
      | ok found =>
        simp [hvalue, rateOf, hrate, Except.map] at h
        obtain ⟨rfl, rfl⟩ := h
        exact ⟨rfl, text, rfl, hrate⟩
    | _ => simp [hvalue, rateOf, Except.map] at h

theorem enteredMetric?_eq_some {key : String} {capacity : Int} {entry : Int × Metric}
    (h : enteredMetric? key (capacity, s) = some entry) :
    s.metric = .ok entry.2 ∧ s.key = key ∧ entry.1 = capacity := by
  cases hm : s.metric with
  | error refusal => simp [enteredMetric?, hm] at h
  | ok m =>
    simp only [enteredMetric?, hm, Option.ite_none_right_eq_some, Option.some.injEq] at h
    obtain ⟨hkey, rfl⟩ := h
    exact ⟨rfl, hkey, rfl⟩

theorem enteredRate?_eq_some {kind : RateKind} {denom : String} {capacity : Int}
    {entry : Int × RateRecord} (h : enteredRate? kind denom (capacity, s) = some entry) :
    ∃ m rate, s.metric = .ok m ∧ s.type.rateKind? = some kind ∧ s.rate = .ok (denom, rate) ∧
      entry = (capacity, ⟨kind, .text denom, rate, m.updateTime⟩) := by
  cases hm : s.metric with
  | error refusal => simp [enteredRate?, hm] at h
  | ok m =>
    cases hrate : s.rate with
    | error failure => simp [enteredRate?, hm, hrate] at h
    | ok found =>
      simp only [enteredRate?, hm, hrate, Option.ite_none_right_eq_some, Option.some.injEq] at h
      obtain ⟨⟨hkind, rfl⟩, rfl⟩ := h
      exact ⟨m, found.2, rfl, hkind, rfl, rfl⟩

theorem enteredMetric?_eq (hm : s.metric = .ok m) (key : String) (capacity : Int) :
    enteredMetric? key (capacity, s) = if s.key = key then some (capacity, m) else none := by
  simp only [enteredMetric?, hm]

theorem enteredRate?_eq (hm : s.metric = .ok m) {kind : RateKind}
    (hkind : s.type.rateKind? = some kind) {denom : String} {rate : Decimal}
    (hrate : s.rate = .ok (denom, rate)) (kind' : RateKind) (denom' : String) (capacity : Int) :
    enteredRate? kind' denom' (capacity, s) =
      if kind = kind' ∧ denom = denom' then
        some (capacity, ⟨kind, .text denom, rate, m.updateTime⟩)
      else none := by
  simp only [enteredRate?, hm, hrate, hkind, Option.some.injEq]
  split
  · rename_i heq
    rw [heq.1, heq.2]
  · rfl

theorem enteredRate?_of_rate (hm : s.metric = .ok m) {kind : RateKind}
    (hkind : s.type.rateKind? = some kind) {denom : String} {rate : Decimal}
    (hrate : s.rate = .ok (denom, rate)) (capacity : Int) :
    enteredRate? kind denom (capacity, s) =
      some (capacity, ⟨kind, .text denom, rate, m.updateTime⟩) := by
  rw [enteredRate?_eq hm hkind hrate, if_pos ⟨rfl, rfl⟩]

theorem does_record_metric (h : t.Follow metrics rates) (hm : s.metric = .ok m) (capacity : Int) :
    ∃ payload outcome, (Store.metrics.record capacity s.key m).Does t (.ok outcome)
        (t.put .metrics s.key payload) ∧
      (t.put .metrics s.key payload).Follow (metrics ++ [(capacity, s)]) rates := by
  have hkey : m.key.isText = true := by rw [(metric_eq_ok hm).1]; rfl
  obtain ⟨payload, hdoes, hfollows⟩ := (h.metrics s.key).does_record Metric.renders
    (Codec.settles_of_settled m.settled) (Metric.Resembles.refl hkey) capacity
  refine ⟨payload, _, hdoes, fun key => ?_, fun kind denom => ?_⟩
  · have hentry := enteredMetric?_eq hm key capacity
    by_cases heq : s.key = key
    · subst heq
      rw [if_pos rfl] at hentry
      rw [filterMap_concat_of_some hentry]
      exact hfollows
    · rw [if_neg heq] at hentry
      rw [filterMap_concat_of_none hentry]
      exact (h.metrics key).of_row_eq (Tables.get?_put_ne fun h => heq h.2.symm)
  · exact (h.rates kind denom).of_row_eq
      (Tables.get?_put_ne fun h => rateTable_ne_metrics kind h.1)

theorem does_recordRate (h : t.Follow metrics rates) (hm : s.metric = .ok m) {kind : RateKind}
    (hkind : s.type.rateKind? = some kind) {denom : String} {rate : Decimal}
    (hrate : s.rate = .ok (denom, rate)) (capacity : Int) :
    ∃ payload, (recordRate capacity kind m s).Does t (.ok ())
        (t.put (Store.rateTable kind) denom payload) ∧
      (t.put (Store.rateTable kind) denom payload).Follow metrics (rates ++ [(capacity, s)]) := by
  obtain ⟨-, text, -, hread⟩ := rate_eq_ok hrate
  obtain ⟨r, hr⟩ := RateRecord.exists_isReadBackOf hread kind denom m.updateTime
  have hsettles := hr.settles
  rw [hr.kind] at hsettles
  obtain ⟨payload, hdoes, hfollows⟩ :=
    (h.rates kind denom).does_record (RateRecord.renders kind) hsettles hr capacity
  refine ⟨payload, ?_, fun key => ?_, fun kind' denom' => ?_⟩
  · rw [recordRate, hrate]
    refine (Action.does_ofResult _ t).bind ?_
    exact hdoes.bind (Action.does_pure () _)
  · exact (h.metrics key).of_row_eq
      (Tables.get?_put_ne fun h => rateTable_ne_metrics kind h.1.symm)
  · have hentry := enteredRate?_eq hm hkind hrate kind' denom' capacity
    by_cases heq : kind = kind' ∧ denom = denom'
    · obtain ⟨rfl, rfl⟩ := heq
      rw [if_pos ⟨rfl, rfl⟩] at hentry
      rw [filterMap_concat_of_some hentry]
      exact hfollows
    · rw [if_neg heq] at hentry
      rw [filterMap_concat_of_none hentry]
      exact (h.rates kind' denom').of_row_eq (Tables.get?_put_ne fun h =>
        heq ⟨(rateTable_injective h.1).symm, h.2.symm⟩)

/-! ## Submitting -/

def verdict (s : Submission) : Except Failure Metric :=
  match s.metric, s.type.rateKind? with
  | .error refusal, _ => .error (.refused refusal)
  | .ok m, none => .ok m
  | .ok m, some _ => s.rate.map fun _ => m

theorem metric_of_verdict (h : s.verdict = .ok m) : s.metric = .ok m := by
  unfold verdict at h
  split at h
  · cases h
  · rename_i hm _
    cases h
    exact hm
  · rename_i hm _
    cases hrate : s.rate with
    | error failure => rw [hrate] at h; cases h
    | ok found =>
      rw [hrate] at h
      cases h
      exact hm

theorem rate_of_verdict (h : s.verdict = .ok m) {kind : RateKind}
    (hkind : s.type.rateKind? = some kind) : ∃ denom rate, s.rate = .ok (denom, rate) := by
  cases hrate : s.rate with
  | error failure => rw [verdict, metric_of_verdict h, hkind, hrate] at h; cases h
  | ok found => exact ⟨found.1, found.2, rfl⟩

/-- The rows that a submission may change: that of its key and, if it is a rate, that of its
denom. -/
def Touches (s : Submission) (name : TableName) (key : String) : Prop :=
  name = .metrics ∧ key = s.key ∨
    ∃ kind, s.type.rateKind? = some kind ∧ name = Store.rateTable kind ∧ s.denom = .ok key

theorem follow_of_no_rate (h : t.Follow metrics rates) (capacity : Int)
    (hno : ∀ m kind found, s.metric = .ok m → s.type.rateKind? = some kind →
      s.rate ≠ .ok found) :
    t.Follow metrics (rates ++ [(capacity, s)]) where
  metrics := h.metrics
  rates kind denom := by
    have hnone : enteredRate? kind denom (capacity, s) = none := by
      refine Option.eq_none_iff_forall_ne_some.2 fun entry hentry => ?_
      obtain ⟨m, rate, hm, hkind, hrate, -⟩ := enteredRate?_eq_some hentry
      exact hno m kind _ hm hkind hrate
    rw [filterMap_concat_of_none hnone]
    exact h.rates kind denom

theorem follow_of_no_metric (h : t.Follow metrics rates) (capacity : Int)
    (hno : ∀ m, s.metric ≠ .ok m) :
    t.Follow (metrics ++ [(capacity, s)]) (rates ++ [(capacity, s)]) where
  metrics key := by
    have hnone : enteredMetric? key (capacity, s) = none :=
      Option.eq_none_iff_forall_ne_some.2 fun entry hentry =>
        hno _ (enteredMetric?_eq_some hentry).1
    rw [filterMap_concat_of_none hnone]
    exact h.metrics key
  rates := (follow_of_no_rate h capacity fun m _ _ hm => absurd hm (hno m)).rates

def rest (capacity : Int) (m : Metric) (s : Submission) : Action Unit :=
  match s.type.rateKind? with
  | some kind => recordRate capacity kind m s
  | none => pure ()

theorem submit_eq (capacity : Int) (s : Submission) :
    s.submit capacity = Action.ofChecked s.metric >>= fun m =>
      Store.metrics.record capacity s.key m >>= fun _ =>
        s.rest capacity m >>= fun _ => pure m := by
  unfold submit rest
  cases s.type.rateKind? <;> rfl

theorem does_submit {posts : List (Int × Submission)} (h : t.Follow posts posts) (capacity : Int)
    (s : Submission) :
    ∃ t', (s.submit capacity).Does t s.verdict t' ∧
      t'.Follow (posts ++ [(capacity, s)]) (posts ++ [(capacity, s)]) ∧
      t'.AgreesOff t s.Touches := by
  rw [submit_eq]
  cases hm : s.metric with
  | error refusal =>
    have hno : ∀ m, s.metric ≠ .ok m := fun m h => by rw [hm] at h; cases h
    refine ⟨t, ?_, follow_of_no_metric h capacity hno, Tables.agreesOff_refl t _⟩
    rw [verdict, hm]
    exact (Action.does_ofChecked _ t).bind_error
  | ok m =>
    obtain ⟨payload, outcome, hrecord, hfollow⟩ := does_record_metric h hm capacity
    have hmetric : (t.put .metrics s.key payload).AgreesOff t s.Touches :=
      Tables.agreesOff_put (Tables.agreesOff_refl t _) (.inl ⟨rfl, rfl⟩)
    cases hkind : s.type.rateKind? with
    | none =>
      have hno : ∀ m kind found, s.metric = .ok m → s.type.rateKind? = some kind →
          s.rate ≠ .ok found :=
        fun _ _ _ _ h => by rw [hkind] at h; cases h
      refine ⟨_, ?_, follow_of_no_rate hfollow capacity hno, hmetric⟩
      have hrest : s.rest capacity m = pure () := by rw [rest, hkind]
      rw [verdict, hm, hkind]
      refine (Action.does_ofChecked _ t).bind (hrecord.bind ?_)
      rw [hrest]
      exact (Action.does_pure () _).bind (Action.does_pure m _)
    | some kind =>
      have hrest : s.rest capacity m = recordRate capacity kind m s := by rw [rest, hkind]
      cases hrate : s.rate with
      | error failure =>
        have hno : ∀ m kind found, s.metric = .ok m → s.type.rateKind? = some kind →
            s.rate ≠ .ok found :=
          fun _ _ _ _ _ h => by rw [hrate] at h; cases h
        -- here the metric is in the tables though the submission fails; a rollback takes it out
        refine ⟨_, ?_, follow_of_no_rate hfollow capacity hno, hmetric⟩
        rw [verdict, hm, hkind, hrate]
        refine (Action.does_ofChecked _ t).bind (hrecord.bind ?_)
        rw [hrest, recordRate, hrate]
        exact (Action.does_ofResult _ _).bind_error.bind_error
      | ok found =>
        obtain ⟨denom, rate⟩ := found
        obtain ⟨payload', hdoes, hfollow'⟩ := does_recordRate hfollow hm hkind hrate capacity
        refine ⟨_, ?_, hfollow', Tables.agreesOff_put hmetric (.inr ⟨kind, hkind, rfl, ?_⟩)⟩
        · rw [verdict, hm, hkind, hrate]
          refine (Action.does_ofChecked _ t).bind (hrecord.bind ?_)
          rw [hrest]
          exact hdoes.bind (Action.does_pure m _)
        · exact (rate_eq_ok hrate).1

end Submission

end MetricLedger
