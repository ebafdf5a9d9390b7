import MetricLedger.Service
import MetricLedger.Proofs.Service.Entries
import MetricLedger.Proofs.Stored.Queries

/-!
# Runs of the service

Calls are made one after the other, each through a service of its own, on a database that starts
with empty tables. After every run, the rows follow the posts that were accepted on the way.
-/

namespace MetricLedger

open Json (Value)
open Storage (Action Database Tables)

inductive Request where
  | instantiate (config : LedgerConfig)
  | post (sender : Option String) (submission : Submission)
  | migrate
  | config
  | latestMetric (key : String)
  | historicalMetrics (key : String) (limit : Value)
  | allLatestMetrics
  | latestRate (kind : RateKind) (denom : String) (params : Value)
  | historicalRates (kind : RateKind) (denom : String) (params limit : Value)

def Request.asks : Request → Bool
  | instantiate _ | post _ _ | migrate => false
  | _ => true

inductive Reply where
  | acknowledged (acknowledgment : Acknowledgment)
  | config (config : LedgerConfig)
  | metric (m : Metric)
  | metrics (ms : List Metric)
  | rate (r : RateRecord)
  | rates (rs : List RateRecord)

def Call.map {α β : Type} (f : α → β) (call : Call α) : Call β := fun db =>
  ((call db).1.map f, (call db).2)

theorem Call.map_of_ok {α β : Type} {call : Call α} {db db' : Database} {x : α}
    (h : call db = (.ok x, db')) (f : α → β) : call.map f db = (.ok (f x), db') := by
  rw [map, h]
  rfl

theorem Call.map_of_error {α β : Type} {call : Call α} {db db' : Database} {e : Failure}
    (h : call db = (.error e, db')) (f : α → β) : call.map f db = (.error e, db') := by
  rw [map, h]
  rfl

def Service.answer (s : Service) : Request → Call Reply
  | .instantiate config => (s.instantiate config).map .acknowledged
  | .post sender submission => (s.post sender submission).map .acknowledged
  | .migrate => s.migrate.map .acknowledged
  | .config => Service.config.map .config
  | .latestMetric key => (Service.latestMetric key).map .metric
  | .historicalMetrics key limit => (Service.historicalMetrics key limit).map .metrics
  | .allLatestMetrics => Service.allLatestMetrics.map .metrics
  | .latestRate kind denom params => (Service.latestRate kind denom params).map .rate
  | .historicalRates kind denom params limit =>
    (Service.historicalRates kind denom params limit).map .rates

/-- A database, and the submissions that were accepted on the way to it, each with the capacity of
the service that accepted it. -/
structure Trace where
  database : Database
  accepted : List (Int × Submission)

namespace Trace

def start : Trace := ⟨Database.blank.create, []⟩

def acceptedBy (s : Service) : Request → Except Failure Reply → List (Int × Submission)
  | .post _ submission, .ok _ => [(s.capacity, submission)]
  | _, _ => []

def next (trace : Trace) (step : Service × Request) : Trace where
  database := (step.1.answer step.2 trace.database).2
  accepted := trace.accepted ++
    acceptedBy step.1 step.2 (step.1.answer step.2 trace.database).1

def run (steps : List (Service × Request)) : Trace := steps.foldl next start

theorem run_concat (steps : List (Service × Request)) (step : Service × Request) :
    run (steps ++ [step]) = (run steps).next step := by
  rw [run, List.foldl_append]
  rfl

end Trace

/-! ## Calls that leave the histories alone -/

namespace Service

variable {t : Tables} {row : Storage.ConfigRow}

theorem does_configRow (h : t.config = some row) : configRow.Does t (.ok row) t := by
  obtain ⟨metrics, redemptionRates, purchaseRates, row?⟩ := t
  cases h
  rfl

theorem does_configRow_of_none (h : t.config = none) :
    configRow.Does t (.error (.refused .notInstantiated)) t := by
  obtain ⟨metrics, redemptionRates, purchaseRates, row?⟩ := t
  cases h
  rfl

theorem reads_configRow : configRow.Reads := by
  intro t
  cases h : t.config with
  | none => exact ⟨_, does_configRow_of_none h⟩
  | some row => exact ⟨_, does_configRow h⟩

theorem does_setVersion (h : t.config = some row) (version : String) :
    (Storage.Config.setVersion (some version)).Does t (.ok ())
      { t with config := some { row with contractVersion := version } } := by
  obtain ⟨metrics, redemptionRates, purchaseRates, row?⟩ := t
  cases h
  rfl

theorem instantiate_ofTables (s : Service) (config : LedgerConfig) (t : Tables) :
    ∃ row?, (s.instantiate config (.ofTables t)).2 = .ofTables { t with config := row? } := by
  unfold instantiate
  cases config.check with
  | error refusal => exact ⟨t.config, rfl⟩
  | ok u =>
    obtain ⟨metrics, redemptionRates, purchaseRates, row?⟩ := t
    obtain ⟨capacity, name, version⟩ := s
    cases row? with
    | some row => exact ⟨_, rfl⟩
    | none => cases name <;> cases version <;> exact ⟨_, rfl⟩

theorem call_of_reads {α : Type} {action : Action α} (h : action.Reads) (t : Tables) :
    (call action (.ofTables t)).2 = .ofTables t := by
  obtain ⟨result, hdoes⟩ := h t
  unfold call
  cases result with
  | ok x => rw [Database.transaction_of_does_ok hdoes]
  | error e => rw [Database.transaction_of_does_error hdoes]

/-- A question changes nothing. -/
theorem answer_of_asks (s : Service) {request : Request} (h : request.asks = true) (t : Tables) :
    (s.answer request (.ofTables t)).2 = .ofTables t := by
  cases request with
  | instantiate _ => cases h
  | post _ _ => cases h
  | migrate => cases h
  | config =>
    have hreads := Action.reads_bind reads_configRow fun row =>
      Action.reads_pure (LedgerConfig.mk row.admin row.channel)
    exact call_of_reads hreads t
  | latestMetric key => exact call_of_reads (Store.reads_latest .metrics key) t
  | historicalMetrics key limit => exact call_of_reads (Query.reads_historicalMetrics key limit) t
  | allLatestMetrics => exact call_of_reads (Store.reads_allLatest .metrics) t
  | latestRate kind denom params =>
    exact call_of_reads (Query.reads_latestRate kind denom params) t
  | historicalRates kind denom params limit =>
    exact call_of_reads (Query.reads_historicalRates kind denom params limit) t

section
variable {s : Service}

theorem migrate_of_none (h : t.config = none) :
    s.migrate (.ofTables t) = (.error (.refused .notInstantiated), .ofTables t) :=
  Database.transaction_of_does_error (does_configRow_of_none h).bind_error

theorem migrate_of_name_ne (h : t.config = some row)
    (hname : some row.contractName ≠ s.contractName) :
    s.migrate (.ofTables t) =
      (.error (.refused (.otherContract row.contractName s.contractName)), .ofTables t) := by
  unfold migrate call
  apply Database.transaction_of_does_error
  apply (does_configRow h).bind
  rw [if_pos hname]
  exact (Action.does_refuse _ t).bind_error

theorem migrate_of_error (h : t.config = some row) (hname : ¬some row.contractName ≠ s.contractName)
    {e : Failure} (hversion : successor row.contractVersion s.contractVersion = .error e) :
    s.migrate (.ofTables t) = (.error e, .ofTables t) := by
  unfold migrate call
  apply Database.transaction_of_does_error
  apply (does_configRow h).bind
  rw [if_neg hname, hversion]
  exact (Action.does_ofResult _ t).bind_error

theorem migrate_of_ok (h : t.config = some row) (hname : ¬some row.contractName ≠ s.contractName)
    {version : String} (hversion : successor row.contractVersion s.contractVersion = .ok version) :
    s.migrate (.ofTables t) = (.ok (.migrated row.contractVersion version),
      .ofTables { t with config := some { row with contractVersion := version } }) := by
  unfold migrate call
  apply Database.transaction_of_does_ok
  apply (does_configRow h).bind
  rw [if_neg hname, hversion]
  apply (Action.does_ofResult _ t).bind
  exact (does_setVersion h version).bind (Action.does_pure _ _)

end

theorem migrate_ofTables (s : Service) (t : Tables) :
    ∃ row?, (s.migrate (.ofTables t)).2 = .ofTables { t with config := row? } := by
  cases hrow : t.config with
  | none => exact ⟨t.config, by rw [migrate_of_none hrow]⟩
  | some row =>
    by_cases hname : some row.contractName ≠ s.contractName
    · exact ⟨t.config, by rw [migrate_of_name_ne hrow hname]⟩
    · cases hversion : successor row.contractVersion s.contractVersion with
      | error e => exact ⟨t.config, by rw [migrate_of_error hrow hname hversion]⟩
      | ok version => exact ⟨_, by rw [migrate_of_ok hrow hname hversion]⟩

/-! ## Posts -/

def verdict (row? : Option Storage.ConfigRow) (sender : Option String) (submission : Submission) :
    Except Failure Metric :=
  match row? with
  | none => .error (.refused .notInstantiated)
  | some row =>
    if sender ≠ some row.admin then .error (.refused (.unauthorized sender))
    else submission.verdict

section
variable {s : Service} {sender : Option String} {submission : Submission}

theorem post_of_none (h : t.config = none) :
    s.post sender submission (.ofTables t) = (.error (.refused .notInstantiated), .ofTables t) :=
  Database.transaction_of_does_error (does_configRow_of_none h).bind_error

theorem post_of_unauthorized (h : t.config = some row) (hsender : sender ≠ some row.admin) :
    s.post sender submission (.ofTables t) =
      (.error (.refused (.unauthorized sender)), .ofTables t) := by
  unfold post call
  apply Database.transaction_of_does_error
  apply (does_configRow h).bind
  rw [if_pos hsender]
  exact (Action.does_refuse _ t).bind_error

theorem post_of_does_error (h : t.config = some row) (hsender : ¬sender ≠ some row.admin)
    {e : Failure} {t' : Tables} (hdoes : (submission.submit s.capacity).Does t (.error e) t') :
    s.post sender submission (.ofTables t) = (.error e, .ofTables t) := by
  unfold post call
  apply Database.transaction_of_does_error
  apply (does_configRow h).bind
  rw [if_neg hsender]
  exact hdoes.bind_error

theorem post_of_does_ok (h : t.config = some row) (hsender : ¬sender ≠ some row.admin)
    {m : Metric} {t' : Tables} (hdoes : (submission.submit s.capacity).Does t (.ok m) t') :
    s.post sender submission (.ofTables t) = (.ok (.posted m), .ofTables t') := by
  unfold post call
  apply Database.transaction_of_does_ok
  apply (does_configRow h).bind
  rw [if_neg hsender]
  exact hdoes.bind (Action.does_pure _ t')

end

theorem post_of_follow {posts : List (Int × Submission)} (h : t.Follow posts posts) (s : Service)
    (sender : Option String) (submission : Submission) :
    match verdict t.config sender submission with
    | .error e => s.post sender submission (.ofTables t) = (.error e, .ofTables t)
    | .ok m => ∃ t', s.post sender submission (.ofTables t) = (.ok (.posted m), .ofTables t') ∧
        t'.Follow (posts ++ [(s.capacity, submission)]) (posts ++ [(s.capacity, submission)]) ∧
        t'.AgreesOff t submission.Touches := by
  cases hrow : t.config with
  | none => exact post_of_none hrow
  | some row =>
    by_cases hsender : sender ≠ some row.admin
    · rw [verdict, if_pos hsender]
      exact post_of_unauthorized hrow hsender
    · rw [verdict, if_neg hsender]
      obtain ⟨t', hdoes, hfollow, hagrees⟩ := Submission.does_submit h s.capacity submission
      cases hverdict : submission.verdict with
      | error e =>
        rw [hverdict] at hdoes
        exact post_of_does_error hrow hsender hdoes
      | ok m =>
        rw [hverdict] at hdoes
        exact ⟨t', post_of_does_ok hrow hsender hdoes, hfollow, hagrees⟩

theorem verdict_eq_ok {row? : Option Storage.ConfigRow} {sender : Option String}
    {submission : Submission} {m : Metric} (h : verdict row? sender submission = .ok m) :
    submission.verdict = .ok m := by
  cases row? with
  | none => cases h
  | some row =>
    by_cases hsender : sender ≠ some row.admin
    · rw [verdict, if_pos hsender] at h
      cases h
    · rwa [verdict, if_neg hsender] at h

end Service

/-! ## Runs -/

namespace Trace

/-- The rows follow the accepted submissions, of which each is in order. -/
structure Sound (trace : Trace) (t : Tables) : Prop where
  database : trace.database = .ofTables t
  follow : t.Follow trace.accepted trace.accepted
  verdict : ∀ post ∈ trace.accepted, ∃ m, post.2.verdict = .ok m

/-- A request that is no post changes the configuration row at most. -/
theorem answer_ofTables (s : Service) (request : Request) (t : Tables)
    (h : ∀ sender submission, request ≠ .post sender submission) :
    ∃ row?, (s.answer request (.ofTables t)).2 = .ofTables { t with config := row? } := by
  by_cases hasks : request.asks = true
  · exact ⟨t.config, s.answer_of_asks hasks t⟩
  · cases request with
    | instantiate config => exact s.instantiate_ofTables config t
    | post sender submission => exact absurd rfl (h sender submission)
    | migrate => exact s.migrate_ofTables t
    | _ => exact absurd rfl hasks

theorem acceptedBy_of_ne_post {s : Service} {request : Request} {result : Except Failure Reply}
    (h : ∀ sender submission, request ≠ .post sender submission) :
    acceptedBy s request result = [] := by
  cases request with
  | post sender submission => exact absurd rfl (h sender submission)
  | _ => rfl

theorem next_post_ok {trace : Trace} {s : Service} {sender : Option String}
    {submission : Submission} {a : Acknowledgment} {db : Database}
    (h : s.post sender submission trace.database = (.ok a, db)) :
    trace.next (s, .post sender submission) =
      ⟨db, trace.accepted ++ [(s.capacity, submission)]⟩ := by
  simp only [next, Service.answer, Call.map, h]
  rfl

theorem next_post_error {trace : Trace} {s : Service} {sender : Option String}
    {submission : Submission} {e : Failure} {db : Database}
    (h : s.post sender submission trace.database = (.error e, db)) :
    trace.next (s, .post sender submission) = ⟨db, trace.accepted⟩ := by
  simp only [next, Service.answer, Call.map, h]
  exact congrArg _ (List.append_nil _)

theorem next_of_ne_post {trace : Trace} {s : Service} {request : Request}
    (h : ∀ sender submission, request ≠ .post sender submission) :
    trace.next (s, request) = ⟨(s.answer request trace.database).2, trace.accepted⟩ := by
  simp only [next, acceptedBy_of_ne_post h, List.append_nil]

theorem sound_start : start.Sound .empty where
  database := rfl
  follow := Tables.follow_empty
  verdict := nofun

theorem Sound.next {trace : Trace} {t : Tables} (h : trace.Sound t) (step : Service × Request) :
    ∃ t', (trace.next step).Sound t' := by
  obtain ⟨database, accepted⟩ := trace
  obtain ⟨rfl, hfollow, hverdict⟩ := h
  obtain ⟨s, request⟩ := step
  -- only a post touches the histories
  by_cases hpost : ∃ sender submission, request = .post sender submission
  · obtain ⟨sender, submission, rfl⟩ := hpost
    have hstep := Service.post_of_follow hfollow s sender submission
    cases hresult : Service.verdict t.config sender submission with
    | error e =>
      rw [hresult] at hstep
      rw [next_post_error hstep]
      exact ⟨t, rfl, hfollow, hverdict⟩
    | ok m =>
      rw [hresult] at hstep
      obtain ⟨t', hanswer, hfollow', -⟩ := hstep
      rw [next_post_ok hanswer]
      refine ⟨t', rfl, hfollow', fun post hmem => ?_⟩
      rcases List.mem_append.1 hmem with hmem | hmem
      · exact hverdict post hmem
      · rw [List.mem_singleton.1 hmem]
        exact ⟨m, Service.verdict_eq_ok hresult⟩
  · have hne : ∀ sender submission, request ≠ .post sender submission :=
      fun sender submission h => hpost ⟨sender, submission, h⟩
    obtain ⟨row?, hdatabase⟩ := answer_ofTables s request t hne
    rw [next_of_ne_post hne]
    exact ⟨{ t with config := row? }, hdatabase,
      hfollow.of_table_eq (Tables.table_config t row?), hverdict⟩

theorem sound_run (steps : List (Service × Request)) : ∃ t, (run steps).Sound t := by
  induction steps using List.reverseRecOn with
  | nil => exact ⟨.empty, sound_start⟩
  | append_singleton steps step ih =>
    obtain ⟨t, h⟩ := ih
    rw [run_concat]
    exact h.next step

theorem Sound.metric_row_eq_none_iff {trace : Trace} {t : Tables} (h : trace.Sound t)
    (key : String) :
    (t.table .metrics).get? key = none ↔ ∀ post ∈ trace.accepted, post.2.key ≠ key := by
  refine (h.follow.metrics key).row_eq_none_iff.trans (List.filterMap_eq_nil_iff.trans ?_)
  refine forall₂_congr fun post hpost => ?_
  obtain ⟨m, hverdict⟩ := h.verdict post hpost
  rw [Submission.enteredMetric?_eq (Submission.metric_of_verdict hverdict)]
  simp

theorem Sound.rate_row_eq_none_iff {trace : Trace} {t : Tables} (h : trace.Sound t)
    (kind : RateKind) (denom : String) :
    (t.table (Store.rateTable kind)).get? denom = none ↔
      ∀ post ∈ trace.accepted, ¬(post.2.type.rateKind? = some kind ∧ post.2.denom = .ok denom) := by
  refine (h.follow.rates kind denom).row_eq_none_iff.trans (List.filterMap_eq_nil_iff.trans ?_)
  refine forall₂_congr fun post hpost => ?_
  obtain ⟨m, hverdict⟩ := h.verdict post hpost
  constructor
  · rintro hnone ⟨hkind, hdenom⟩
    obtain ⟨named, rate, hrate⟩ := Submission.rate_of_verdict hverdict hkind
    cases hdenom.symm.trans (Submission.rate_eq_ok hrate).1
    have hentry := Submission.enteredRate?_of_rate (Submission.metric_of_verdict hverdict) hkind
      hrate post.1
    cases hnone.symm.trans hentry
  · refine fun hno => Option.eq_none_iff_forall_ne_some.2 fun entry hentry => ?_
    obtain ⟨m, rate, -, hkind, hrate, -⟩ := Submission.enteredRate?_eq_some hentry
    exact hno ⟨hkind, (Submission.rate_eq_ok hrate).1⟩

/-- After every run there is a row for each key that was posted to and for each denom that a posted
rate named, and no other. A row lists the last metric of each time, or the last record, the newest
ones of them, as many as the service allowed that accepted the first one. -/
theorem run_lists (steps : List (Service × Request)) :
    ∃ t, (run steps).database = .ofTables t ∧
      (∀ post ∈ (run steps).accepted, ∃ m, post.2.metric = .ok m ∧
        ∀ kind, post.2.type.rateKind? = some kind →
          ∃ denom rate, post.2.rate = .ok (denom, rate)) ∧
      (∀ key, ((t.table .metrics).get? key = none ↔
          ∀ post ∈ (run steps).accepted, post.2.key ≠ key) ∧
        Store.metrics.Lists
          (fun m posted => m.Resembles posted ∧ ∀ text, posted.value = .text text → m = posted)
          t key ((run steps).accepted.filterMap (Submission.enteredMetric? key))) ∧
      ∀ kind denom, ((t.table (Store.rateTable kind)).get? denom = none ↔
          ∀ post ∈ (run steps).accepted,
            ¬(post.2.type.rateKind? = some kind ∧ post.2.denom = .ok denom)) ∧
        (Store.rates kind).Lists RateRecord.IsReadBackOf t denom
          ((run steps).accepted.filterMap (Submission.enteredRate? kind denom)) := by
  obtain ⟨t, h⟩ := sound_run steps
  refine ⟨t, h.database, fun post hpost => ?_, fun key => ⟨h.metric_row_eq_none_iff key, ?_⟩,
    fun kind denom => ⟨h.rate_row_eq_none_iff kind denom, (h.follow.rates kind denom).lists⟩⟩
  · obtain ⟨m, hverdict⟩ := h.verdict post hpost
    exact ⟨m, Submission.metric_of_verdict hverdict,
      fun kind hkind => Submission.rate_of_verdict hverdict hkind⟩
  · exact (h.follow.metrics key).lists.mono fun m posted hm => ⟨hm, fun _ => hm.eq_of_text⟩

end Trace

end MetricLedger
