import MetricLedger.Proofs.Service.Runs

/-!
# Standing submissions

An accepted submission stands as long as none of a later one replaces its metric. What is retained
under a key are metrics of standing submissions; and all of these are retained, if no metric was
pushed out of its history or found no room in it.
-/

namespace MetricLedger

open Json (Value)
open Storage (Action Database Session Tables)

/-! ## Histories that lost nothing -/

section
variable {α : Type} [Timed α] {entries : List (Int × α)} {x : α} {capacity : Int}

def IsEntire (entries : List (Int × α)) : Prop :=
  ∀ s, historyOf entries = some s → s.items = byTime (lastOfEachTime (entries.map Prod.snd))

theorem isEntire_concat (h : IsEntire entries)
    (hroom : (((historyOf entries).getD (.empty capacity)).add x).2 = .inserted ∨
      (((historyOf entries).getD (.empty capacity)).add x).2 = .replaced) :
    IsEntire (entries ++ [(capacity, x)]) := by
  intro s hs
  rw [historyOf_concat] at hs
  cases hs
  rw [Series.items_add_of_room hroom, List.map_append, List.map_cons, List.map_nil,
    byTime_lastOfEachTime_concat]
  congr 1
  cases hhistory : historyOf entries with
  | none =>
    cases entries with
    | nil => exact (byTime_lastOfEachTime_of_ascending .nil).symm
    | cons => cases hhistory
  | some s => exact h s hhistory

end

namespace Submission

/-- Whether the metric of a submission finds room in the history of its key: it is not dropped, and
pushes no other one out. -/
def findsRoom (capacity : Int) (s : Submission) (db : Database) : Bool :=
  match s.metric with
  | .error _ => true
  | .ok m =>
    match ((Session.begin db).perform (Store.metrics.record capacity s.key m)).1 with
    | .error _ => true
    | .ok outcome => outcome == .inserted || outcome == .replaced

theorem isEntire_of_findsRoom {s : Submission} {capacity : Int} {t : Tables}
    {posts : List (Int × Submission)} (h : t.Follow posts posts)
    (hentire : ∀ key, IsEntire (posts.filterMap (enteredMetric? key))) {m : Metric}
    (hm : s.metric = .ok m) (hroom : s.findsRoom capacity (.ofTables t) = true) (key : String) :
    IsEntire ((posts ++ [(capacity, s)]).filterMap (enteredMetric? key)) := by
  have hentry := enteredMetric?_eq hm key capacity
  by_cases hkey : s.key = key
  · subst hkey
    rw [if_pos rfl] at hentry
    rw [filterMap_concat_of_some hentry]
    refine isEntire_concat (hentire s.key) ?_
    have hnamed : m.key.isText = true := by rw [(metric_eq_ok hm).1]; rfl
    obtain ⟨payload, hdoes, -⟩ := (h.metrics s.key).does_record Metric.renders
      (Codec.settles_of_settled m.settled) (Metric.Resembles.refl hnamed) capacity
    simpa [findsRoom, hm, Session.begin_ofTables, Session.perform_of_does hdoes] using hroom
  · rw [if_neg hkey] at hentry
    rw [filterMap_concat_of_none hentry]
    exact hentire key

end Submission

namespace Trace

def losesNothing (trace : Trace) : List (Service × Request) → Bool
  | [] => true
  | step :: rest =>
    let accepted := acceptedBy step.1 step.2 (step.1.answer step.2 trace.database).1
    accepted.all (fun post => post.2.findsRoom post.1 trace.database) &&
      (trace.next step).losesNothing rest

theorem losesNothing_concat (trace : Trace) (steps : List (Service × Request))
    (step : Service × Request) :
    trace.losesNothing (steps ++ [step]) = (trace.losesNothing steps &&
      (steps.foldl next trace).losesNothing [step]) := by
  induction steps generalizing trace with
  | nil => rfl
  | cons first rest ih =>
    rw [List.cons_append, losesNothing, losesNothing, ih, List.foldl_cons, Bool.and_assoc]

theorem acceptedBy_eq (s : Service) (request : Request) (result : Except Failure Reply) :
    acceptedBy s request result = [] ∨
      ∃ submission, acceptedBy s request result = [(s.capacity, submission)] := by
  cases request with
  | post sender submission =>
    cases result with
    | error e => exact .inl rfl
    | ok reply => exact .inr ⟨submission, rfl⟩
  | _ => exact .inl rfl

theorem exists_isEntire (steps : List (Service × Request))
    (h : start.losesNothing steps = true) :
    ∃ t, (run steps).Sound t ∧ ∀ key,
      IsEntire ((run steps).accepted.filterMap (Submission.enteredMetric? key)) := by
  induction steps using List.reverseRecOn with
  | nil => exact ⟨.empty, sound_start, fun key s hs => nomatch hs⟩
  | append_singleton steps step ih =>
    rw [losesNothing_concat, Bool.and_eq_true] at h
    obtain ⟨t, hsound, hentire⟩ := ih h.1
    obtain ⟨t', hsound'⟩ := hsound.next step
    rw [run_concat]
    refine ⟨t', hsound', ?_⟩
    have hroom : (run steps).losesNothing [step] = true := h.2
    simp only [losesNothing, Bool.and_true, hsound.database, List.all_eq_true] at hroom
    have hverdict := hsound'.verdict
    simp only [next, hsound.database] at hverdict ⊢
    rcases acceptedBy_eq step.1 step.2 (step.1.answer step.2 (.ofTables t)).1 with
      hnone | ⟨submission, hone⟩
    · rw [hnone, List.append_nil]
      exact hentire
    · rw [hone] at hroom hverdict ⊢
      obtain ⟨m, hm⟩ := hverdict _ (List.mem_append_right _ (List.mem_singleton_self _))
      exact Submission.isEntire_of_findsRoom hsound.follow hentire (Submission.metric_of_verdict hm)
        (hroom _ (List.mem_singleton_self _))

/-! ## Standing submissions -/

/-- A submission that was accepted, with no later one under its key for its time. -/
def Stands (accepted : List (Int × Submission)) (s : Submission) : Prop :=
  ∃ before capacity after, accepted = before ++ (capacity, s) :: after ∧
    ∀ later ∈ after, ¬(later.2.key = s.key ∧ later.2.updateTime = s.updateTime)

section
variable {trace : Trace} {t : Tables} {s : Submission} {posted : Metric} {key : String}

theorem Sound.mem_lastOfEachTime_iff (h : trace.Sound t) :
    posted ∈ lastOfEachTime
        ((trace.accepted.filterMap (Submission.enteredMetric? key)).map Prod.snd) ↔
      ∃ s, Stands trace.accepted s ∧ s.key = key ∧ s.metric = .ok posted := by
  rw [List.map_filterMap, mem_lastOfEachTime_filterMap]
  constructor
  · rintro ⟨before, post, after, hsplit, hpost, hafter⟩
    obtain ⟨entry, hentry, rfl⟩ := Option.map_eq_some_iff.1 hpost
    obtain ⟨hm, hkey, -⟩ := Submission.enteredMetric?_eq_some hentry
    refine ⟨post.2, ⟨before, post.1, after, hsplit, ?_⟩, hkey, hm⟩
    rintro later hlater ⟨hkey', htime⟩
    obtain ⟨m, hverdict⟩ := h.verdict later (by rw [hsplit]; simp [hlater])
    have hm' := Submission.metric_of_verdict hverdict
    refine hafter later hlater m ?_ ((Submission.updateTime_eq_iff hm hm').1 htime)
    rw [Submission.enteredMetric?_eq hm' key later.1, if_pos (hkey'.trans hkey)]
    rfl
  · rintro ⟨s, ⟨before, capacity, after, hsplit, hlast⟩, hkey, hm⟩
    refine ⟨before, (capacity, s), after, hsplit, ?_, fun later hlater m hm' => ?_⟩
    · rw [Submission.enteredMetric?_eq hm, if_pos hkey]
      rfl
    · obtain ⟨entry, hentry, rfl⟩ := Option.map_eq_some_iff.1 hm'
      obtain ⟨hm', hkey', -⟩ := Submission.enteredMetric?_eq_some hentry
      intro htime
      exact hlast later hlater
        ⟨hkey'.trans hkey.symm, (Submission.updateTime_eq_iff hm hm').2 htime⟩

/-- What is retained under a key is the metric of a standing submission, as it is read back. -/
theorem Sound.exists_stands (h : trace.Sound t) {payload : Value}
    (hrow : (t.table .metrics).get? key = some payload) :
    ∃ series, Series.ofStored Metric.codec payload = .ok series ∧ ∀ m ∈ series.items,
      ∃ s posted, Stands trace.accepted s ∧ s.key = key ∧ s.metric = .ok posted ∧
        m.Resembles posted := by
  obtain ⟨series, hseries, hposted⟩ := (h.follow.metrics key).posted hrow
  refine ⟨series, hseries, fun m hm => ?_⟩
  obtain ⟨posted, hlast, hresembles⟩ := hposted m hm
  obtain ⟨s, hstands, hkey, hs⟩ := h.mem_lastOfEachTime_iff.1 hlast
  exact ⟨s, posted, hstands, hkey, hs, hresembles⟩

theorem Sound.retained_of_stands (h : trace.Sound t)
    (hentire : IsEntire (trace.accepted.filterMap (Submission.enteredMetric? s.key)))
    (hs : Stands trace.accepted s) (hm : s.metric = .ok posted) :
    ∃ payload series, (t.table .metrics).get? s.key = some payload ∧
      Series.ofStored Metric.codec payload = .ok series ∧
      ∃ m ∈ series.items, m.Resembles posted := by
  have hlast := h.mem_lastOfEachTime_iff.2 ⟨s, hs, rfl, hm⟩
  obtain ⟨entry, hentry, -⟩ := List.mem_map.1 (mem_of_mem_lastOfEachTime hlast)
  obtain ⟨series, capacity, ⟨payload, hrow, hstored⟩, hhistory, hrel⟩ :=
    (h.follow.metrics s.key).exists_related (List.ne_nil_of_mem hentry)
  refine ⟨payload, series, hrow, hstored.ofStored, ?_⟩
  rw [← mem_byTime, ← hentire _ hhistory] at hlast
  obtain ⟨m, hmem, hresembles⟩ := exists_of_mem_forall₂ hrel.items.flip hlast
  exact ⟨m, hmem, hresembles⟩

end

end Trace

end MetricLedger
