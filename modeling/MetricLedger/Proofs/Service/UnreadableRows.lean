import MetricLedger.Proofs.Service.Frames
import MetricLedger.Proofs.Stored.Faults

/-!
# Unreadable rows

A row that no history can be read from makes every action fail that has to read it, and no
submission changes it. A row that holds null is taken for none, except by the question for all keys.
-/

namespace MetricLedger

open Json (Value)
open Storage (Action TableName Tables)

namespace Store

section
variable {α : Type} {store : Store α} {key : String} {payload : Value} {fault : Malformed}

def failure (store : Store α) (key : String) (fault : Malformed) : Failure :=
  if fault.isUnreadable then .storage (.unreadable store.table.label key fault)
  else .malformed fault

theorem failure_of_explained {p : Prop} (h : fault.Explained p) (hp : ¬p) :
    store.failure key fault = .storage (.unreadable store.table.label key fault) :=
  if_pos (h.resolve_right fun hthere => hp hthere.2)

end

variable {α : Type} [Timed α] {store : Store α} {t : Tables} {key : String} {payload : Value}
  {fault : Malformed}

theorem does_decode_of_fault (h : Series.ofStored store.codec payload = .error fault)
    (t : Tables) : (store.decode key payload).Does t (.error (store.failure key fault)) t := by
  unfold decode failure
  rw [h]
  dsimp only
  by_cases hfault : fault.isUnreadable = true
  · rw [if_pos hfault, if_pos hfault]
    exact Action.does_fail _ t
  · rw [if_neg hfault, if_neg hfault]
    exact Action.does_throw _ t

structure Spoiled (store : Store α) (t : Tables) (key : String) (payload : Value)
    (fault : Malformed) : Prop where
  row : (t.table store.table).get? key = some payload
  not_null : payload ≠ .null
  ofStored : Series.ofStored store.codec payload = .error fault

theorem Spoiled.does_load? (h : store.Spoiled t key payload fault) :
    (store.load? key).Does t (.error (store.failure key fault)) t := by
  refine (Storage.History.does_load? store.table key t).bind ?_
  rw [h.row]
  cases payload with
  | null => exact absurd rfl h.not_null
  | _ => exact (does_decode_of_fault h.ofStored t).bind_error

theorem does_load?_of_null (h : (t.table store.table).get? key = some .null) :
    (store.load? key).Does t (.ok none) t := by
  refine (Storage.History.does_load? store.table key t).bind ?_
  rw [h]
  exact Action.does_pure none t

theorem keeps_row_of_ne {name : TableName} {other : String}
    (hne : ¬(name = store.table ∧ other = key)) (row? : Option Value) (capacity : Int) (x : α) :
    (store.record capacity key x).Keeps fun t => (t.table name).get? other = row? := by
  refine keeps_record (fun t payload ht => ?_) capacity x
  exact (Tables.get?_put_ne hne).trans ht

theorem keeps_row_of_fault (store : Store α) (hnull : payload ≠ .null)
    (hfault : Series.ofStored store.codec payload = .error fault) (capacity : Int) (x : α) :
    (store.record capacity key x).Keeps fun t => (t.table store.table).get? key = some payload := by
  intro t ht
  have hspoiled : store.Spoiled t key payload fault := ⟨ht, hnull, hfault⟩
  exact ⟨_, t, hspoiled.does_load?.bind_error, ht⟩

/-- Reading and writing the key fail in this way, and no submission changes its row, whether it
succeeds or not. -/
structure FailsSafely (store : Store α) (t : Tables) (key : String) (payload : Value)
    (e : Failure) : Prop where
  latest : (store.latest key).Does t (.error e) t
  historical : ∀ limit, (store.historical key limit).Does t (.error e) t
  record : ∀ capacity x, (store.record capacity key x).Does t (.error e) t
  submit : ∀ capacity (s : Submission), ∃ result t', (s.submit capacity).Does t result t' ∧
    (t'.table store.table).get? key = some payload
  post : ∀ (s : Service) sender submission, ∃ result t',
    s.post sender submission (.ofTables t) = (result, .ofTables t') ∧
      (t'.table store.table).get? key = some payload

theorem Spoiled.failsSafely (h : store.Spoiled t key payload fault)
    (hkeeps : ∀ capacity (s : Submission),
      (s.submit capacity).Keeps fun t => (t.table store.table).get? key = some payload) :
    store.FailsSafely t key payload (store.failure key fault) where
  latest := h.does_load?.bind_error.bind_error
  historical _ := h.does_load?.bind_error.bind_error
  record _ _ := h.does_load?.bind_error
  submit capacity s := hkeeps capacity s t h.row
  post s sender submission := Service.exists_post (hkeeps s.capacity submission) sender h.row

/-! ## All keys -/

def latestOf (store : Store α) (row : Storage.Row) : Action (Option α) := do
  return (← store.decode row.1 row.2).latest?

theorem does_latestOf (store : Store α) (row : Storage.Row) (t : Tables) :
    (store.latestOf row).Does t
      (match Series.ofStored store.codec row.2 with
        | .ok s => .ok s.latest?
        | .error fault => .error (store.failure row.1 fault)) t := by
  cases h : Series.ofStored store.codec row.2 with
  | ok s => exact (does_decode h).bind (Action.does_pure s.latest? t)
  | error fault => exact (does_decode_of_fault h t).bind_error

theorem reads_latestOf (store : Store α) (row : Storage.Row) : (store.latestOf row).Reads :=
  fun t => ⟨_, does_latestOf store row t⟩

theorem exists_ofStored_of_latestOf {row : Storage.Row} {x? : Option α}
    (h : (store.latestOf row).Does t (.ok x?) t) :
    ∃ s, Series.ofStored store.codec row.2 = .ok s := by
  have hunique := (h.unique (does_latestOf store row t)).1
  cases hs : Series.ofStored store.codec row.2 with
  | ok s => exact ⟨s, rfl⟩
  | error fault =>
    rw [hs] at hunique
    cases hunique

theorem exists_fault_of_latestOf {row : Storage.Row} {e : Failure}
    (h : (store.latestOf row).Does t (.error e) t) :
    ∃ fault, Series.ofStored store.codec row.2 = .error fault ∧ e = store.failure row.1 fault := by
  have hunique := (h.unique (does_latestOf store row t)).1
  cases hs : Series.ofStored store.codec row.2 with
  | ok s =>
    rw [hs] at hunique
    cases hunique
  | error fault =>
    rw [hs] at hunique
    exact ⟨fault, rfl, Except.error.inj hunique⟩

/-- Where a row has a fault, the question for all keys fails at the first row that has one. -/
theorem does_allLatest_of_fault (store : Store α)
    (hrow : (t.table store.table).get? key = some payload)
    (hfault : Series.ofStored store.codec payload = .error fault) :
    ∃ first found why, (t.table store.table).get? first = some found ∧
      Series.ofStored store.codec found = .error why ∧
      (∀ other v, other < first → (t.table store.table).get? other = some v →
        ∃ s, Series.ofStored store.codec v = .ok s) ∧
      store.allLatest.Does t (.error (store.failure first why)) t := by
  have hfails := does_latestOf store (key, payload) t
  simp only [hfault] at hfails
  obtain ⟨before, ⟨first, found⟩, after, e, heq, hbefore, hfirst, hall⟩ :=
    exists_first_of_mapM (reads_latestOf store) (Storage.Table.mem_rows_iff.2 hrow) hfails
  obtain ⟨why, hwhy, rfl⟩ := exists_fault_of_latestOf hfirst
  refine ⟨first, found, why, ?_, hwhy, fun other v hlt hother => ?_, ?_⟩
  · exact Storage.Table.mem_rows_iff.1 (by rw [heq]; simp)
  · have hsorted := (t.table store.table).sorted
    have hmem := Storage.Table.mem_rows_iff.2 hother
    rw [heq] at hsorted hmem
    rcases List.mem_append.1 hmem with hmem | hmem
    · obtain ⟨x?, hx⟩ := hbefore _ hmem
      exact exists_ofStored_of_latestOf hx
    · -- the rows that come after the first one with a fault have greater keys
      exfalso
      rcases List.mem_cons.1 hmem with hmem | hmem
      · cases hmem
        exact String.lt_irrefl _ hlt
      · have hafter := (List.pairwise_cons.1 (List.pairwise_append.1 hsorted).2.1).1 _ hmem
        exact String.lt_irrefl _ (String.lt_trans hlt hafter)
  · exact (Storage.History.does_loadAll store.table t).bind hall.bind_error

/-! ## Rows that hold null -/

structure TakenForNone (store : Store α) (t : Tables) (key : String) : Prop where
  latest : (store.latest key).Does t (.error (.refused (.notFound store.name key))) t
  historical : ∀ limit,
    (store.historical key limit).Does t (.error (.refused (.notFound store.name key))) t
  record : ∀ capacity x, store.codec.Settled x → ∃ payload, payload ≠ .null ∧
    (store.record capacity key x).Does t (.ok ((Series.empty capacity).add x).2)
      (t.put store.table key payload)

theorem does_load_of_null (h : (t.table store.table).get? key = some .null) :
    (store.load key).Does t (.error (.refused (.notFound store.name key))) t :=
  (does_load?_of_null h).bind (Action.does_refuse _ t)

theorem takenForNone_of_null (h : (t.table store.table).get? key = some .null) :
    store.TakenForNone t key where
  latest := (does_load_of_null h).bind_error
  historical _ := (does_load_of_null h).bind_error
  record capacity x hx := by
    have hempty : ∀ y ∈ (Series.empty capacity : Series α).items, store.codec.Settled y :=
      fun y hy => nomatch hy
    obtain ⟨payload, hstored⟩ := Series.exists_storedAs (Series.settled_add hempty hx)
    obtain ⟨items, -, rfl⟩ := Series.toStored_eq_ok_iff.1 hstored.stored
    obtain ⟨written, hsave, hwritten⟩ :=
      Storage.History.does_save (Series.merge_form _ items) store.table key t
    have hdoes := does_record_of_stored (does_load?_of_null h) hstored.stored hsave
    refine ⟨written, ?_, hdoes⟩
    rintro rfl
    rcases hwritten with hwritten | ⟨-, hsame⟩
    · cases hwritten
    · obtain ⟨_, heq, -⟩ := Value.same_object_iff.1 hsame
      cases heq

end Store

namespace Submission

variable {key : String} {payload : Value} {fault : Malformed}

theorem keeps_spoiled_metrics (hnull : payload ≠ .null)
    (hfault : Series.ofStored Metric.codec payload = .error fault) (capacity : Int)
    (s : Submission) :
    (s.submit capacity).Keeps fun t => (t.table .metrics).get? key = some payload := by
  refine keeps_submit (fun m _ => ?_) fun m kind denom rate _ _ _ => ?_
  · by_cases hkey : s.key = key
    · rw [hkey]
      exact Store.keeps_row_of_fault .metrics hnull hfault capacity m
    · exact Store.keeps_row_of_ne (fun h => hkey h.2.symm) _ capacity m
  · exact Store.keeps_row_of_ne (fun h => rateTable_ne_metrics kind h.1.symm) _ capacity _

theorem keeps_spoiled_rates {kind : RateKind} (hnull : payload ≠ .null)
    (hfault : Series.ofStored (RateRecord.codec kind) payload = .error fault) (capacity : Int)
    (s : Submission) :
    (s.submit capacity).Keeps fun t =>
      (t.table (Store.rateTable kind)).get? key = some payload := by
  refine keeps_submit (fun m _ => ?_) fun m kind' denom rate _ _ _ => ?_
  · exact Store.keeps_row_of_ne (fun h => rateTable_ne_metrics kind h.1) _ capacity m
  · by_cases hrow : kind = kind' ∧ denom = key
    · obtain ⟨rfl, rfl⟩ := hrow
      exact Store.keeps_row_of_fault (.rates kind) hnull hfault capacity _
    · exact Store.keeps_row_of_ne
        (fun h => hrow ⟨rateTable_injective h.1, h.2.symm⟩) _ capacity _

end Submission

/-! ## Rows that no history is read from -/

namespace Store

variable {α : Type} [Timed α] {store : Store α} {t : Tables} {key : String} {payload : Value}
  {fault : Malformed}

/-- What becomes of such a row, by its fault: it is unreadable for the storage unless a part of it
that is converted has no bounds, and is no row at all if it holds null. -/
structure Fails (store : Store α) (isUnbounded : Value → Prop) (t : Tables) (key : String)
    (payload : Value) (fault : Malformed) : Prop where
  ofStored : Series.ofStored store.codec payload = .error fault
  explained : fault.Explained (Series.IsUnbounded isUnbounded payload)
  unreadable : ¬Series.IsUnbounded isUnbounded payload →
    store.failure key fault = .storage (.unreadable store.table.label key fault)
  safely : payload ≠ .null → store.FailsSafely t key payload (store.failure key fault)
  absent : payload = .null → store.TakenForNone t key

theorem exists_fails (store : Store α) {isUnbounded : Value → Prop}
    (hcodec : store.codec.Explains isUnbounded)
    (hkeeps : ∀ fault, payload ≠ .null → Series.ofStored store.codec payload = .error fault →
      ∀ capacity (s : Submission),
        (s.submit capacity).Keeps fun t => (t.table store.table).get? key = some payload)
    (hrow : (t.table store.table).get? key = some payload)
    (hnone : ∀ s, Series.ofStored store.codec payload ≠ .ok s) :
    ∃ fault, store.Fails isUnbounded t key payload fault := by
  cases hfault : Series.ofStored store.codec payload with
  | ok s => exact absurd hfault (hnone s)
  | error fault =>
    have hexplained := Series.explained_of_ofStored hcodec hfault
    refine ⟨fault, hfault, hexplained, failure_of_explained hexplained, fun hnull => ?_,
      fun hnull => ?_⟩
    · have hspoiled : store.Spoiled t key payload fault := ⟨hrow, hnull, hfault⟩
      exact hspoiled.failsSafely (hkeeps fault hnull hfault)
    · rw [hnull] at hrow
      exact takenForNone_of_null hrow

end Store

/-- **A row that cannot be read is left alone.** Whatever value stands in a row that no history is
read from: if it is not null, every action on the key fails, and no submission and no post changes
the row. The failure is one of the storage and names the key, unless a number in a part that is
converted has no bounds. A question for all metrics fails at the first such row, also if it holds
null. -/
theorem Storage.Tables.unreadable_row_stays (t : Tables) (key : String) (payload : Value) :
    ((t.table .metrics).get? key = some payload →
      (∀ s, Series.ofStored Metric.codec payload ≠ .ok s) →
      (∃ fault, Store.metrics.Fails Metric.IsUnbounded t key payload fault) ∧
      ∃ first found why, (t.table .metrics).get? first = some found ∧
        Series.ofStored Metric.codec found = .error why ∧
        why.Explained (Series.IsUnbounded Metric.IsUnbounded found) ∧
        Store.metrics.allLatest.Does t (.error (Store.metrics.failure first why)) t ∧
        (∀ other v, other < first → (t.table .metrics).get? other = some v →
          ∃ s, Series.ofStored Metric.codec v = .ok s) ∧
        ((∀ other v, other ≠ key → (t.table .metrics).get? other = some v →
          ∃ s, Series.ofStored Metric.codec v = .ok s) → first = key)) ∧
    ∀ kind, (t.table (Store.rateTable kind)).get? key = some payload →
      (∀ s, Series.ofStored (RateRecord.codec kind) payload ≠ .ok s) →
      ∃ fault, (Store.rates kind).Fails (RateRecord.IsUnbounded kind) t key payload fault := by
  refine ⟨fun hrow hnone => ?_, fun kind hrow hnone => ?_⟩
  · obtain ⟨fault, hfails⟩ := Store.exists_fails .metrics Metric.codec_explains
      (fun _ => Submission.keeps_spoiled_metrics) hrow hnone
    obtain ⟨first, found, why, hfirst, hwhy, hbefore, hall⟩ :=
      Store.does_allLatest_of_fault .metrics hrow hfails.ofStored
    refine ⟨⟨fault, hfails⟩, first, found, why, hfirst, hwhy,
      Series.explained_of_ofStored Metric.codec_explains hwhy, hall, hbefore, fun honly => ?_⟩
    by_contra hne
    obtain ⟨s, hs⟩ := honly first found hne hfirst
    cases hwhy.symm.trans hs
  · exact Store.exists_fails (.rates kind) (RateRecord.codec_explains kind)
      (fun _ => Submission.keeps_spoiled_rates) hrow hnone

def wordForRate : Value :=
  .object [("capacity", .integer 1), ("items", .array [.object
    [("denom", .text "d"), ("redemption_rate", .text "x"), ("update_time", .integer 1)]])]

theorem unreadable_row_stays_wordForRate :
    (∀ s, Series.ofStored (RateRecord.codec .redemption) wordForRate ≠ .ok s) ∧
    (Store.rates .redemption).Fails (RateRecord.IsUnbounded .redemption)
      (Tables.empty.put .redemptionRates "d" wordForRate) "d" wordForRate
      (.notDecimal (.text "x")) := by
  have hfault : Series.ofStored (RateRecord.codec .redemption) wordForRate =
      .error (.notDecimal (.text "x")) := rfl
  have hnone : ∀ s, Series.ofStored (RateRecord.codec .redemption) wordForRate ≠ .ok s := by
    intro s hs
    cases hfault.symm.trans hs
  have hrow : ((Tables.empty.put .redemptionRates "d" wordForRate).table .redemptionRates).get? "d" =
      some wordForRate := Tables.get?_put_self
  obtain ⟨fault, hfails⟩ := (Tables.unreadable_row_stays _ "d" wordForRate).2 .redemption hrow hnone
  cases hfault.symm.trans hfails.ofStored
  exact ⟨hnone, hfails⟩

def endlessHistory : Value := .object [("capacity", .real (.infinite false)), ("items", .array [])]

def spareMetric : Metric := ⟨.text "k", .text "v", .other "x", 1, 1, none⟩

/-- A row that holds null is not found and is written over, and one with an infinite capacity gives
a failure that is not one of the storage. -/
theorem null_row_written_over :
    Series.ofStored Metric.codec .null = .error .mismatch ∧
    (Store.metrics.latest "k").Does (Tables.empty.put .metrics "k" .null)
      (.error (.refused (.notFound "metric" "k"))) (Tables.empty.put .metrics "k" .null) ∧
    (∃ outcome t, (Store.metrics.record 1 "k" spareMetric).Does
      (Tables.empty.put .metrics "k" .null) (.ok outcome) t ∧
      (t.table .metrics).get? "k" ≠ some .null) ∧
    Series.ofStored Metric.codec endlessHistory = .error .unbounded ∧
    (Store.metrics.latest "k").Does (Tables.empty.put .metrics "k" endlessHistory)
      (.error (.malformed .unbounded)) (Tables.empty.put .metrics "k" endlessHistory) := by
  have hnull : Store.metrics.TakenForNone (Tables.empty.put .metrics "k" .null) "k" :=
    Store.takenForNone_of_null Tables.get?_put_self
  have hendless : Store.metrics.Spoiled (Tables.empty.put .metrics "k" endlessHistory) "k"
      endlessHistory .unbounded := ⟨Tables.get?_put_self, nofun, rfl⟩
  refine ⟨rfl, hnull.latest, ?_, rfl, hendless.does_load?.bind_error.bind_error⟩
  obtain ⟨payload, hpayload, hdoes⟩ := hnull.record 1 spareMetric spareMetric.settled
  refine ⟨_, _, hdoes, ?_⟩
  rw [show Store.metrics.table = .metrics from rfl, Tables.get?_put_self]
  exact fun h => hpayload (Option.some.inj h)

end MetricLedger
