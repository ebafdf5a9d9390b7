import MetricLedger.Proofs.Service.Sessions
import MetricLedger.Proofs.Stored.ReadPaths

/-!
# Reading after any turns

Services are called and submissions are made in sessions, in turns and with any capacities. As long
as each has room for one item, no history is ever empty, and all ways of reading agree.
-/

namespace MetricLedger

open List (Forall₂)
open Json (Value)
open Storage (Action Database Session Tables View)

/-- Who uses the database next: a service that is called, or a session of submissions, each with a
capacity of its own, that is committed at its end. -/
inductive Turn where
  | call (s : Service) (request : Request)
  | session (posts : List (Int × Submission))

namespace Turn

def submissions : Turn → List (Int × Submission)
  | call s (.post _ submission) => [(s.capacity, submission)]
  | call _ _ => []
  | session posts => posts

def after (turn : Turn) (db : Database) : Database :=
  match turn with
  | call s request => (s.answer request db).2
  | session posts => ((Session.begin db).submitAll posts).commit.2.committed

def outcome (turns : List Turn) : Database :=
  turns.foldl (fun db turn => turn.after db) Database.blank.create

theorem outcome_concat (turns : List Turn) (turn : Turn) :
    outcome (turns ++ [turn]) = turn.after (outcome turns) := by
  simp only [outcome, List.foldl_append, List.foldl_cons, List.foldl_nil]

variable {t : Tables} {made : List (Int × Submission)}

theorem after_of_follow (h : t.Follow made made) (turn : Turn) :
    ∃ t' more, turn.after (.ofTables t) = .ofTables t' ∧ more ⊆ turn.submissions ∧
      t'.Follow (made ++ more) (made ++ more) := by
  cases turn with
  | session posts =>
    obtain ⟨t', heq, hfollow⟩ := Session.submitAll_of_follow h (.ofTables t) posts
    refine ⟨t', posts, ?_, List.Subset.refl _, hfollow⟩
    rw [after, Session.begin_ofTables, heq]
    rfl
  | call s request =>
    by_cases hpost : ∃ sender submission, request = .post sender submission
    · obtain ⟨sender, submission, rfl⟩ := hpost
      have hstep := Service.post_of_follow h s sender submission
      cases hresult : Service.verdict t.config sender submission with
      | error e =>
        rw [hresult] at hstep
        refine ⟨t, [], ?_, List.nil_subset _, by rwa [List.append_nil]⟩
        rw [after, Service.answer, Call.map, hstep]
      | ok m =>
        rw [hresult] at hstep
        obtain ⟨t', hanswer, hfollow, -⟩ := hstep
        refine ⟨t', _, ?_, List.Subset.refl _, hfollow⟩
        rw [after, Service.answer, Call.map, hanswer]
    · have hne : ∀ sender submission, request ≠ .post sender submission :=
        fun sender submission h => hpost ⟨sender, submission, h⟩
      obtain ⟨row?, hdatabase⟩ := Trace.answer_ofTables s request t hne
      refine ⟨{ t with config := row? }, [], hdatabase, List.nil_subset _, ?_⟩
      rw [List.append_nil]
      exact h.of_table_eq (Tables.table_config t row?)

theorem exists_follow (turns : List Turn) : ∃ t made, outcome turns = .ofTables t ∧
    made ⊆ turns.flatMap submissions ∧ t.Follow made made := by
  induction turns using List.reverseRecOn with
  | nil => exact ⟨.empty, [], rfl, List.Subset.refl _, Tables.follow_empty⟩
  | append_singleton turns turn ih =>
    obtain ⟨t, made, heq, hmade, hfollow⟩ := ih
    obtain ⟨t', more, heq', hmore, hfollow'⟩ := after_of_follow hfollow turn
    refine ⟨t', made ++ more, ?_, ?_, hfollow'⟩
    · rw [outcome_concat, heq, heq']
    · rw [List.flatMap_append, List.flatMap_singleton]
      exact List.append_subset.2 ⟨List.Subset.trans hmade (List.subset_append_left _ _),
        List.Subset.trans hmore (List.subset_append_right _ _)⟩

end Turn

/-! ## Reading -/

section
variable {t : Tables} {made : List (Int × Submission)}

theorem Storage.Tables.Follow.exists_metrics (h : t.Follow made made)
    (hroom : ∀ post ∈ made, 1 ≤ post.1) (key : String) :
    ∃ s?, Store.metrics.Shows t key s? ∧ (∀ s, s? = some s → s.items ≠ []) ∧
      ∀ m ∈ Series.listed s?, m.key = .text key := by
  have hentries : ∀ entry ∈ made.filterMap (Submission.enteredMetric? key), 1 ≤ entry.1 := by
    intro entry hentry
    obtain ⟨post, hpost, hentered⟩ := List.mem_filterMap.1 hentry
    rw [(Submission.enteredMetric?_eq_some hentered).2.2]
    exact hroom post hpost
  obtain ⟨s?, hshows, hfilled, hposted⟩ := (h.metrics key).exists_filled hentries
  refine ⟨s?, hshows, hfilled, fun m hm => ?_⟩
  obtain ⟨entry, hentry, hresembles⟩ := hposted m hm
  obtain ⟨post, -, hentered⟩ := List.mem_filterMap.1 hentry
  obtain ⟨hmetric, hkey, -⟩ := Submission.enteredMetric?_eq_some hentered
  rw [hresembles.key, (Submission.metric_eq_ok hmetric).1, hkey]

theorem Storage.Tables.Follow.exists_rates (h : t.Follow made made)
    (hroom : ∀ post ∈ made, 1 ≤ post.1) (kind : RateKind) (denom : String) :
    ∃ s?, (Store.rates kind).Shows t denom s? ∧ (∀ s, s? = some s → s.items ≠ []) ∧
      ∀ r ∈ Series.listed s?, r.kind = kind ∧ r.denom = .text denom ∧
        ∃ post ∈ made, post.2.type = .rate kind ∧ post.2.denom = .ok denom ∧
          post.2.updateTime = .integer r.updateTime := by
  have hentries : ∀ entry ∈ made.filterMap (Submission.enteredRate? kind denom), 1 ≤ entry.1 := by
    intro entry hentry
    obtain ⟨post, hpost, hentered⟩ := List.mem_filterMap.1 hentry
    obtain ⟨m, rate, -, -, -, rfl⟩ := Submission.enteredRate?_eq_some hentered
    exact hroom post hpost
  obtain ⟨s?, hshows, hfilled, hposted⟩ := (h.rates kind denom).exists_filled hentries
  refine ⟨s?, hshows, hfilled, fun r hr => ?_⟩
  obtain ⟨entry, hentry, hback⟩ := hposted r hr
  obtain ⟨post, hpost, hentered⟩ := List.mem_filterMap.1 hentry
  obtain ⟨m, rate, hm, hkind, hrate, rfl⟩ := Submission.enteredRate?_eq_some hentered
  refine ⟨hback.kind, hback.denom, post, hpost, MetricType.rateKind?_eq_some_iff.1 hkind,
    (Submission.rate_eq_ok hrate).1, ?_⟩
  rw [hback.updateTime]
  exact (Submission.metric_eq_ok hm).2

end

/-- **All ways of reading agree.** After any turns, and after any further submissions in a session
that is not committed yet, with room for one item at least: the histories that there are, newest
first, are what every way of asking for a key tells, and the scan of all metrics gives the first
metric of each, in the order of the keys. The records of a denom all come from submitted rates of
their own kind that name it. -/
theorem Turn.reads_agree (turns : List Turn) (pending : List (Int × Submission))
    (hroom : ∀ post ∈ turns.flatMap submissions ++ pending, 1 ≤ post.1) :
    ∃ t, (Session.begin (outcome turns)).submitAll pending = ⟨outcome turns, .ofTables t⟩ ∧
      (∃ histories : String → List Metric,
        (∀ key, Store.metrics.Answers t key (histories key) ∧
          ∀ m ∈ histories key, m.key = .text key) ∧
        ∃ keys latest, Store.metrics.allLatest.Does t (.ok latest) t ∧ keys.Pairwise (· < ·) ∧
          (∀ key, key ∈ keys ↔ histories key ≠ []) ∧
          Forall₂ (fun key m => m.key = .text key ∧ (histories key).head? = some m) keys latest) ∧
      ∀ kind denom, ∃ records, (Store.rates kind).Answers t denom records ∧
        ∀ r ∈ records, r.kind = kind ∧ r.denom = .text denom ∧
          ∃ post ∈ turns.flatMap submissions ++ pending, post.2.type = .rate kind ∧
            post.2.denom = .ok denom ∧ post.2.updateTime = .integer r.updateTime := by
  obtain ⟨t₀, made, heq, hmade, hfollow₀⟩ := exists_follow turns
  obtain ⟨t, hpending, hfollow⟩ := Session.submitAll_of_follow hfollow₀ (.ofTables t₀) pending
  have hall : ∀ post ∈ made ++ pending, post ∈ turns.flatMap submissions ++ pending := by
    intro post hpost
    rcases List.mem_append.1 hpost with hpost | hpost
    · exact List.mem_append_left _ (hmade hpost)
    · exact List.mem_append_right _ hpost
  have hroom' : ∀ post ∈ made ++ pending, 1 ≤ post.1 := fun post hpost =>
    hroom post (hall post hpost)
  refine ⟨t, by rw [heq, Session.begin_ofTables, hpending], ?_, fun kind denom => ?_⟩
  · choose s? hshows hfilled hkeys using hfollow.exists_metrics hroom'
    refine ⟨fun key => Series.listed (s? key),
      fun key => ⟨(hshows key).answers (hfilled key), hkeys key⟩, ?_⟩
    obtain ⟨keys, latest, hlatest, hascending, hmem, hheads⟩ :=
      Store.does_allLatest hshows hfilled
    refine ⟨keys, latest, hlatest, hascending, hmem, hheads.imp fun key m hm => ⟨?_, hm⟩⟩
    exact hkeys key m (List.mem_of_mem_head? hm)
  · obtain ⟨s?, hshows, hfilled, hrecords⟩ := hfollow.exists_rates hroom' kind denom
    refine ⟨Series.listed s?, hshows.answers hfilled, fun r hr => ?_⟩
    obtain ⟨hkind, hdenom, post, hpost, hposted⟩ := hrecords r hr
    exact ⟨hkind, hdenom, post, hall post hpost, hposted⟩

def reading (key : String) (time : Int) : Submission :=
  ⟨key, .text "1", .other "x", .integer time, .integer 1, none⟩

def mixedTurns : List Turn :=
  [.call {} (.instantiate ⟨"a", none⟩), .call {} (.post (some "a") (reading "k" 1)),
    .session [(1, reading "j" 2), (1, reading "j" 3)]]

theorem Turn.reads_agree_mixedTurns :
    (∀ post ∈ mixedTurns.flatMap submissions ++ [(1, reading "i" 1)], 1 ≤ post.1) ∧
    ∃ t items, (Session.begin (outcome mixedTurns)).submitAll [(1, reading "i" 1)] =
        ⟨outcome mixedTurns, .ofTables t⟩ ∧
      Store.metrics.Answers t "j" items ∧ items ≠ [] := by
  have hroom : ∀ post ∈ mixedTurns.flatMap submissions ++ [(1, reading "i" 1)], 1 ≤ post.1 := by
    decide
  obtain ⟨t, heq, ⟨histories, hanswers, -⟩, -⟩ := reads_agree mixedTurns [(1, reading "i" 1)] hroom
  refine ⟨hroom, t, histories "j", heq, (hanswers "j").1, fun hnil => ?_⟩
  have hstored : (((Session.begin (outcome mixedTurns)).submitAll [(1, reading "i" 1)]).perform
      (Storage.History.isStored Store.metrics.table "j")).1.toOption = some true := by
    decide +kernel
  rw [heq, Session.perform_of_does (hanswers "j").1.isStored, hnil] at hstored
  cases hstored

end MetricLedger
