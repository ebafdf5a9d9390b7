import MetricLedger.Proofs.Service.Configured
import MetricLedger.Proofs.Service.Posts
import MetricLedger.Proofs.Service.Turns

/-!
# Replies

On rows that follow accepted posts, each with room for one item, no request breaks off over a
malformed value, as long as what is posted is a text. It is refused, and changes nothing, or it is
replied to with what can be written.
-/

namespace MetricLedger

open Json (Value)
open Storage (Action Tables)

def Storage.Action.Tells {α : Type} (action : Action α) (t : Tables) (P : α → Prop) : Prop :=
  (∃ refusal, action.Does t (.error (.refused refusal)) t) ∨ ∃ x, action.Does t (.ok x) t ∧ P x

theorem Storage.Action.tells_checked {α β : Type} {f : β → Action α} {t : Tables} {P : α → Prop}
    (h : ∀ b, (f b).Tells t P) (checked : Except Refusal β) :
    (ofChecked checked >>= f).Tells t P := by
  have hchecked := does_ofChecked checked t
  cases checked with
  | error refusal => exact .inl ⟨refusal, hchecked.bind_error⟩
  | ok b =>
    rcases h b with ⟨refusal, hdoes⟩ | ⟨x, hdoes, hx⟩
    · exact .inl ⟨refusal, hchecked.bind hdoes⟩
    · exact .inr ⟨x, hchecked.bind hdoes, hx⟩

namespace Store

variable {α : Type} [Timed α] {store : Store α} {t : Tables} {key : String} {items : List α}

theorem Answers.tells_latest (h : store.Answers t key items) :
    (store.latest key).Tells t fun x => x ∈ items := by
  have hlatest := h.latest
  cases hhead : items.head? with
  | none =>
    rw [hhead] at hlatest
    exact .inl ⟨_, hlatest⟩
  | some x =>
    rw [hhead] at hlatest
    exact .inr ⟨x, hlatest, List.mem_of_mem_head? hhead⟩

theorem Answers.tells_historical (h : store.Answers t key items) (limit : Option Nat) :
    (store.historical key limit).Tells t fun xs => ∀ x ∈ xs, x ∈ items := by
  have hwhole := h.historical
  have hpart := h.limited
  by_cases hnil : items = []
  · simp only [if_pos hnil] at hwhole hpart
    cases limit with
    | none => exact .inl ⟨_, hwhole⟩
    | some n => exact .inl ⟨_, hpart n⟩
  · simp only [if_neg hnil] at hwhole hpart
    cases limit with
    | none => exact .inr ⟨items, hwhole, fun _ hx => hx⟩
    | some n => exact .inr ⟨items.take n, hpart n, fun _ hx => List.mem_of_mem_take hx⟩

end Store

def Reply.Writable : Reply → Prop
  | rate r => ∃ text, r.rateText = .ok text
  | rates rs => ∀ r ∈ rs, ∃ text, r.rateText = .ok text
  | _ => True

def Request.Plain : Request → Prop
  | post _ submission => submission.value.isText = true
  | _ => True

theorem RateRecord.exists_rateText {r : RateRecord} {v : Value} (h : r.toStored = .ok v) :
    ∃ text, r.rateText = .ok text := by
  obtain ⟨text, htext, -⟩ := bind_eq_ok_iff.1 h
  exact ⟨text, htext⟩

namespace Service

/-- The request fails, not over a malformed value, and changes nothing; or it is replied to with
what can be written. -/
def Replies (s : Service) (request : Request) (t : Tables) : Prop :=
  (∃ e, s.answer request (.ofTables t) = (.error e, .ofTables t) ∧
    ∀ fault, e ≠ .malformed fault) ∨
  ∃ reply t', s.answer request (.ofTables t) = (.ok reply, .ofTables t') ∧ reply.Writable

theorem replies_of_refused {s : Service} {request : Request} {t : Tables} {refusal : Refusal}
    (h : s.answer request (.ofTables t) = (.error (.refused refusal), .ofTables t)) :
    s.Replies request t :=
  .inl ⟨_, h, nofun⟩

/-! ## Writes -/

section
variable {t : Tables} {made : List (Int × Submission)} (capacity : Int) (name version : String)

theorem replies_instantiate (t : Tables) (config : LedgerConfig) :
    Replies ⟨capacity, some name, some version⟩ (.instantiate config) t := by
  cases hcheck : config.check with
  | error refusal =>
    exact replies_of_refused (Call.map_of_error (instantiate_of_check_error _ hcheck _) _)
  | ok u =>
    cases hrow : t.config with
    | none =>
      have hanswer := instantiate_of_none hcheck hrow capacity name version
      exact .inr ⟨_, _, Call.map_of_ok hanswer _, trivial⟩
    | some row => exact replies_of_refused (Call.map_of_error (instantiate_of_row _ hcheck hrow) _)

theorem replies_post (h : t.Follow made made) (s : Service) (sender : Option String)
    {submission : Submission} (htext : submission.value.isText = true) :
    s.Replies (.post sender submission) t := by
  cases hvalue : submission.value with
  | text text =>
    have hpost := post_of_follow h s sender submission
    have hverdict := verdict_eq_of_text hvalue t.config sender
    cases hfirst : firstOf (causes t.config sender submission) with
    | some refusal =>
      rw [hfirst] at hverdict
      rw [show verdict t.config sender submission = _ from hverdict] at hpost
      exact replies_of_refused (Call.map_of_error hpost _)
    | none =>
      rw [hfirst] at hverdict
      obtain ⟨time, height, -, -, hverdict⟩ := hverdict
      rw [hverdict] at hpost
      obtain ⟨t', hpost, -⟩ := hpost
      exact .inr ⟨_, t', Call.map_of_ok hpost _, trivial⟩
  | _ =>
    rw [hvalue] at htext
    cases htext

theorem replies_migrate (t : Tables) : Replies ⟨capacity, some name, some version⟩ .migrate t := by
  cases hrow : t.config with
  | none => exact replies_of_refused (Call.map_of_error (migrate_of_none hrow) _)
  | some row =>
    have hconfigures := configures name version t
    by_cases hname : row.contractName = name
    · by_cases hprecedes : Version.Precedes row.contractVersion version
      · exact .inr ⟨_, _, Call.map_of_ok (hconfigures.migrated capacity row hrow hname hprecedes) _,
          trivial⟩
      · exact replies_of_refused
          (Call.map_of_error (hconfigures.notNewer capacity row hrow hname hprecedes) _)
    · exact replies_of_refused
        (Call.map_of_error (hconfigures.otherContract capacity row hrow hname) _)

end

/-! ## Questions -/

section
variable {s : Service} {t : Tables} {made : List (Int × Submission)}

theorem replies_of_tells {α : Type} {action : Action α} {P : α → Prop} {request : Request}
    {f : α → Reply} (hanswer : s.answer request = (call action).map f) (h : action.Tells t P)
    (hf : ∀ x, P x → (f x).Writable) : s.Replies request t := by
  rcases h with ⟨refusal, hdoes⟩ | ⟨x, hdoes, hx⟩
  · have herror : call action (.ofTables t) = (.error (.refused refusal), .ofTables t) :=
      Storage.Database.transaction_of_does_error hdoes
    exact replies_of_refused (by rw [hanswer, Call.map_of_error herror])
  · have hok : call action (.ofTables t) = (.ok x, .ofTables t) :=
      Storage.Database.transaction_of_does_ok hdoes
    exact .inr ⟨f x, t, by rw [hanswer, Call.map_of_ok hok], hf x hx⟩

theorem replies_config (s : Service) (t : Tables) : s.Replies .config t := by
  refine replies_of_tells rfl (?_ : Action.Tells _ t fun _ => True) fun _ _ => trivial
  cases hrow : t.config with
  | none => exact .inl ⟨_, (does_configRow_of_none hrow).bind_error⟩
  | some row => exact .inr ⟨_, (does_configRow hrow).bind (Action.does_pure _ t), trivial⟩

theorem tells_allLatest (h : t.Follow made made) (hroom : ∀ post ∈ made, 1 ≤ post.1) :
    Query.allLatestMetrics.Tells t fun _ => True := by
  choose s? hshows hfilled _hkeys using h.exists_metrics hroom
  obtain ⟨keys, latest, hlatest, -⟩ := Store.does_allLatest hshows hfilled
  exact .inr ⟨latest, hlatest, trivial⟩

theorem exists_answers_metrics (h : t.Follow made made) (hroom : ∀ post ∈ made, 1 ≤ post.1)
    (key : String) : ∃ items, Store.metrics.Answers t key items := by
  obtain ⟨s?, hshows, hfilled, -⟩ := h.exists_metrics hroom key
  exact ⟨_, hshows.answers hfilled⟩

theorem exists_answers_rates (h : t.Follow made made) (hroom : ∀ post ∈ made, 1 ≤ post.1)
    (kind : RateKind) (denom : String) :
    ∃ items, (Store.rates kind).Answers t denom items ∧
      ∀ r ∈ items, ∃ text, r.rateText = .ok text := by
  obtain ⟨s?, hshows, hfilled, -⟩ := h.exists_rates hroom kind denom
  refine ⟨_, hshows.answers hfilled, fun r hr => ?_⟩
  obtain ⟨series, rfl, hmem⟩ := Series.mem_listed.1 hr
  obtain ⟨v, hencode, -⟩ := Store.settled_of_shows hshows 0 r hmem
  exact RateRecord.exists_rateText hencode

theorem replies_of_asks (h : t.Follow made made) (hroom : ∀ post ∈ made, 1 ≤ post.1) (s : Service)
    {request : Request} (hasks : request.asks = true) : s.Replies request t := by
  cases request with
  | instantiate _ | post _ _ | migrate => cases hasks
  | config => exact replies_config s t
  | latestMetric key =>
    obtain ⟨items, hanswers⟩ := exists_answers_metrics h hroom key
    exact replies_of_tells rfl hanswers.tells_latest fun _ _ => trivial
  | historicalMetrics key limit =>
    obtain ⟨items, hanswers⟩ := exists_answers_metrics h hroom key
    exact replies_of_tells rfl (Action.tells_checked hanswers.tells_historical _)
      fun _ _ => trivial
  | allLatestMetrics => exact replies_of_tells rfl (tells_allLatest h hroom) fun _ _ => trivial
  | latestRate kind denom params =>
    obtain ⟨items, hanswers, hitems⟩ := exists_answers_rates h hroom kind denom
    exact replies_of_tells rfl (Action.tells_checked (fun _ => hanswers.tells_latest) _) hitems
  | historicalRates kind denom params limit =>
    obtain ⟨items, hanswers, hitems⟩ := exists_answers_rates h hroom kind denom
    have htells := Action.tells_checked hanswers.tells_historical (Query.limit? limit)
    exact replies_of_tells rfl (Action.tells_checked (fun _ => htells) _)
      fun rs hrs r hr => hitems r (hrs r hr)

theorem replies_of_plain (h : t.Follow made made) (hroom : ∀ post ∈ made, 1 ≤ post.1)
    (capacity : Int) (name version : String) {request : Request} (hplain : request.Plain) :
    Replies ⟨capacity, some name, some version⟩ request t := by
  by_cases hasks : request.asks = true
  · exact replies_of_asks h hroom _ hasks
  · cases request with
    | instantiate config => exact replies_instantiate capacity name version t config
    | post sender submission => exact replies_post h _ sender hplain
    | migrate => exact replies_migrate capacity name version t
    | _ => exact absurd rfl hasks

theorem Replies.ne_malformed {request : Request} {db : Storage.Database} {e : Failure}
    (h : s.Replies request t) (hanswer : s.answer request (.ofTables t) = (.error e, db)) :
    ∀ fault, e ≠ .malformed fault := by
  rcases h with ⟨e', herror, he'⟩ | ⟨reply, t', hok, -⟩
  · rw [herror] at hanswer
    cases hanswer
    exact he'
  · rw [hok] at hanswer
    cases hanswer

/-- What is no question is acknowledged. -/
theorem writable_of_not_asks {request : Request} (hasks : ¬request.asks = true)
    {db db' : Storage.Database} {reply : Reply} (h : s.answer request db = (.ok reply, db')) :
    reply.Writable := by
  have hmap : ∀ call : Call Acknowledgment, call.map .acknowledged db = (.ok reply, db') →
      reply.Writable := by
    intro call hcall
    unfold Call.map at hcall
    cases hresult : (call db).1 with
    | error e =>
      rw [hresult] at hcall
      cases hcall
    | ok a =>
      rw [hresult] at hcall
      cases hcall
      trivial
  cases request with
  | instantiate _ | post _ _ | migrate => exact hmap _ h
  | _ => exact absurd rfl hasks

/-- Whatever the request is, it fails and changes nothing, or is replied to with what can be
written. -/
theorem answer_cases (h : t.Follow made made) (hroom : ∀ post ∈ made, 1 ≤ post.1) (s : Service)
    (request : Request) :
    (∃ e, s.answer request (.ofTables t) = (.error e, .ofTables t)) ∨
      ∃ reply t', s.answer request (.ofTables t) = (.ok reply, .ofTables t') ∧
        reply.Writable := by
  by_cases hasks : request.asks = true
  · rcases replies_of_asks h hroom s hasks with ⟨e, herror, -⟩ | hreply
    · exact .inl ⟨e, herror⟩
    · exact .inr hreply
  · have htables : ∃ t', (s.answer request (.ofTables t)).2 = .ofTables t' := by
      by_cases hpost : ∃ sender submission, request = .post sender submission
      · obtain ⟨sender, submission, rfl⟩ := hpost
        obtain ⟨t', ht', -⟩ := post_ofTables h s sender submission
        exact ⟨t', ht'⟩
      · obtain ⟨row?, ht'⟩ := Trace.answer_ofTables s request t fun sender submission heq =>
          hpost ⟨sender, submission, heq⟩
        exact ⟨_, ht'⟩
    obtain ⟨t', ht'⟩ := htables
    cases hresult : (s.answer request (.ofTables t)).1 with
    | error e =>
      exact .inl ⟨e, Prod.ext hresult (s.atomic_answer request (.ofTables t) e hresult)⟩
    | ok reply =>
      have hanswer : s.answer request (.ofTables t) = (.ok reply, .ofTables t') :=
        Prod.ext hresult ht'
      exact .inr ⟨reply, t', hanswer, writable_of_not_asks hasks hanswer⟩

end

end Service

end MetricLedger
