import MetricLedger.Proofs.Service.Runs

/-!
# What a submission leaves alone

What is kept by each row that a submission puts is kept by the submission, whatever the tables hold
and whether or not it succeeds; and by the post that makes it, which may also be taken back.
-/

namespace MetricLedger

open Storage (Action Tables)

variable {P : Tables → Prop}

theorem Store.keeps_record {α : Type} [Timed α] {store : Store α} {key : String}
    (hput : ∀ t payload, P t → P (t.put store.table key payload)) (capacity : Int) (x : α) :
    (store.record capacity key x).Keeps P := by
  refine Action.keeps_bind (store.reads_load? key).keeps fun series? => ?_
  dsimp only
  cases (series?.getD (.empty capacity)).add x with
  | mk grown outcome =>
    refine Action.keeps_bind (Action.reads_ofExcept _).keeps fun payload => ?_
    exact Action.keeps_bind (Storage.History.keeps_save hput payload) fun _ =>
      (Action.reads_pure outcome).keeps

/-- The metric comes first, and then the rate, if there is one. -/
theorem Submission.keeps_submit {s : Submission} {capacity : Int}
    (hmetric : ∀ m, s.metric = .ok m → (Store.metrics.record capacity s.key m).Keeps P)
    (hrate : ∀ m kind denom rate, s.metric = .ok m → s.type.rateKind? = some kind →
      s.rate = .ok (denom, rate) → ((Store.rates kind).record capacity denom
        ⟨kind, .text denom, rate, m.updateTime⟩).Keeps P) :
    (s.submit capacity).Keeps P := by
  rw [submit_eq]
  cases hm : s.metric with
  | error refusal => exact Action.keeps_of_error (Action.does_ofChecked (.error refusal))
  | ok m =>
    refine Action.Keeps.after ?_ (Action.does_ofChecked (.ok m))
    refine Action.keeps_bind (hmetric m hm) fun _ => Action.keeps_bind ?_ fun _ =>
      (Action.reads_pure m).keeps
    unfold rest
    cases hkind : s.type.rateKind? with
    | none => exact (Action.reads_pure ()).keeps
    | some kind =>
      unfold recordRate
      cases hfound : s.rate with
      | error failure => exact Action.keeps_of_error (Action.does_ofResult (.error failure))
      | ok found =>
        refine Action.Keeps.after ?_ (Action.does_ofResult (.ok found))
        exact Action.keeps_bind (hrate m kind found.1 found.2 hm hkind hfound) fun _ =>
          (Action.reads_pure ()).keeps

theorem Service.exists_post {submission : Submission} {s : Service}
    (h : (submission.submit s.capacity).Keeps P) (sender : Option String) {t : Tables} (ht : P t) :
    ∃ result t', s.post sender submission (.ofTables t) = (result, .ofTables t') ∧ P t' := by
  cases hrow : t.config with
  | none => exact ⟨_, t, post_of_none hrow, ht⟩
  | some row =>
    by_cases hsender : sender ≠ some row.admin
    · exact ⟨_, t, post_of_unauthorized hrow hsender, ht⟩
    · obtain ⟨result, t', hdoes, ht'⟩ := h t ht
      cases result with
      | error e => exact ⟨_, t, post_of_does_error hrow hsender hdoes, ht⟩
      | ok m => exact ⟨_, t', post_of_does_ok hrow hsender hdoes, ht'⟩

end MetricLedger
