import MetricLedger.Proofs.Service.Coverage

/-!
# Backing of records

A record is backed by a metric that is retained and yields it. A metric that is posted again for its
time, as something else, takes the backing away from the record of the former one, which stays.
-/

namespace MetricLedger

open Json (Value)
open Storage (Database Tables)

/-- The metric is a rate of the kind, the denom and the time of the record, and its rate has the
same stored form. -/
structure Metric.Yields (m : Metric) (r : RateRecord) : Prop where
  type : m.type = .rate r.kind
  updateTime : m.updateTime = r.updateTime
  denom : ∃ attributes denom, m.attributes = some attributes ∧
    RateAttributes.decode? attributes = some denom ∧ r.denom = .text denom
  rate : ∃ text rate form, m.value = .text text ∧ Rate.ofText text = .ok rate ∧
    rate.canonicalText? = some form ∧ r.rate.canonicalText? = some form

def RateRecord.Backed (t : Tables) (r : RateRecord) : Prop :=
  ∃ key payload series, (t.table .metrics).get? key = some payload ∧
    Series.ofStored Metric.codec payload = .ok series ∧ ∃ m ∈ series.items, m.Yields r

namespace Submission

variable {s : Submission} {kind : RateKind} {denom : String} {capacity : Int}

theorem yields_of_enteredRate? {entry : Int × RateRecord}
    (h : enteredRate? kind denom (capacity, s) = some entry) {r : RateRecord}
    (hr : r.IsReadBackOf entry.2) :
    s.type = .rate kind ∧ s.denom = .ok denom ∧ r.kind = kind ∧ r.denom = .text denom ∧
      ∃ m, s.metric = .ok m ∧ m.Yields r := by
  obtain ⟨m, rate, hm, hkind, hrate, rfl⟩ := enteredRate?_eq_some h
  have htype := MetricType.rateKind?_eq_some_iff.1 hkind
  obtain ⟨hdenom, text, hvalue, hread⟩ := rate_eq_ok hrate
  obtain ⟨attributes, hattributes, hdecode⟩ := denom_eq_ok hdenom
  obtain ⟨hvalue', htype', hattributes'⟩ := parts_of_metric hm
  obtain ⟨form, hform, -, hform'⟩ := hr.rate
  refine ⟨htype, hdenom, hr.kind, hr.denom, m, hm, ?_, hr.updateTime.symm,
    ⟨attributes, denom, hattributes'.trans hattributes, hdecode, hr.denom⟩,
    ⟨text, rate, form, hvalue'.trans hvalue, hread, hform, hform'⟩⟩
  rw [htype', htype, hr.kind]

/-- Of two submissions under one key for one time, the later one is of the same type and names the
same denom, if the earlier one is a rate. -/
def Confirms (earlier later : Submission) : Prop :=
  earlier.key = later.key → earlier.updateTime = later.updateTime →
    ∀ kind, earlier.type = .rate kind → later.type = .rate kind ∧ later.denom = earlier.denom

end Submission

namespace Storage.Database

variable {α : Type} [Timed α] {store : Store α} {key : String}

def items? (db : Database) (store : Store α) (key : String) : Option (Except Malformed (List α)) :=
  (db.tables?.bind fun t => (t.table store.table).get? key).map fun payload =>
    (Series.ofStored store.codec payload).map Series.items

theorem row_of_items? {t : Tables} {items : List α}
    (h : (ofTables t).items? store key = some (.ok items)) :
    ∃ payload series, (t.table store.table).get? key = some payload ∧
      Series.ofStored store.codec payload = .ok series ∧ series.items = items := by
  obtain ⟨payload, hrow, hitems⟩ := Option.map_eq_some_iff.1 h
  cases hseries : Series.ofStored store.codec payload with
  | error fault =>
    rw [hseries] at hitems
    cases hitems
  | ok series =>
    rw [hseries] at hitems
    exact ⟨payload, series, hrow, hseries, Except.ok.inj hitems⟩

end Storage.Database

namespace Trace

variable {trace : Trace} {t : Tables} {r : RateRecord}

theorem Sound.backed_iff (h : trace.Sound t)
    (hentire : ∀ key, IsEntire (trace.accepted.filterMap (Submission.enteredMetric? key))) :
    r.Backed t ↔ ∃ s m, Stands trace.accepted s ∧ s.metric = .ok m ∧ m.Yields r := by
  constructor
  · rintro ⟨key, payload, series, hrow, hseries, m, hmem, hyields⟩
    obtain ⟨series', hseries', hstands⟩ := h.exists_stands hrow
    cases hseries.symm.trans hseries'
    obtain ⟨s, posted, hs, -, hm, hresembles⟩ := hstands m hmem
    obtain ⟨post, hpost, rfl⟩ := hs.mem
    obtain ⟨_, hverdict⟩ := h.verdict post hpost
    obtain ⟨hvalue, htype, -⟩ := Submission.parts_of_metric hm
    -- the value of an accepted rate is a text, so the metric is retained as it was posted
    have hrate : post.2.type = .rate r.kind := by rw [← htype, ← hresembles.type, hyields.type]
    obtain ⟨_, _, text, _, -, -, htext, -, -⟩ := Submission.parts_of_rate hverdict hrate
    rw [hresembles.eq_of_text (hvalue.trans htext)] at hyields
    exact ⟨post.2, posted, hs, hm, hyields⟩
  · rintro ⟨s, posted, hs, hm, hyields⟩
    obtain ⟨payload, series, hrow, hseries, m, hmem, hresembles⟩ :=
      h.retained_of_stands (hentire s.key) hs hm
    obtain ⟨text, _, _, htext, -⟩ := hyields.rate
    rw [← hresembles.eq_of_text htext] at hyields
    exact ⟨s.key, payload, series, hrow, hseries, m, hmem, hyields⟩

/-- What a denom holds are the records of its last posts of their times. -/
theorem Sound.exists_post_of_record (h : trace.Sound t) {kind : RateKind} {denom : String}
    {payload : Value} (hrow : (t.table (Store.rateTable kind)).get? denom = some payload) :
    ∃ index, Series.ofStored (RateRecord.codec kind) payload = .ok index ∧
      ∀ r ∈ index.items, r.kind = kind ∧ r.denom = .text denom ∧
        ∃ before post after, trace.accepted = before ++ post :: after ∧
          post.2.type = .rate kind ∧ post.2.denom = .ok denom ∧
          (∃ m, post.2.metric = .ok m ∧ m.Yields r) ∧
          ∀ later ∈ after, ¬(later.2.type = .rate kind ∧ later.2.denom = .ok denom ∧
            later.2.updateTime = post.2.updateTime) := by
  obtain ⟨index, hindex, hposted⟩ := (h.follow.rates kind denom).posted hrow
  refine ⟨index, hindex, fun r hr => ?_⟩
  obtain ⟨posted, hlast, hread⟩ := hposted r hr
  rw [List.map_filterMap, mem_lastOfEachTime_filterMap] at hlast
  obtain ⟨before, post, after, hsplit, hpost, hafter⟩ := hlast
  obtain ⟨entry, hentry, rfl⟩ := Option.map_eq_some_iff.1 hpost
  obtain ⟨htype, hdenom, hkind, hnamed, m, hm, hyields⟩ :=
    Submission.yields_of_enteredRate? hentry hread
  refine ⟨hkind, hnamed, before, post, after, hsplit, htype, hdenom, ⟨m, hm, hyields⟩, ?_⟩
  rintro later hlater ⟨htype', hdenom', htime⟩
  -- such a post would have entered a record of its own for this time
  obtain ⟨_, hverdict⟩ := h.verdict later (by rw [hsplit]; simp [hlater])
  have hm' := Submission.metric_of_verdict hverdict
  obtain ⟨_, _, _, rate, -, -, -, -, hrate⟩ := Submission.parts_of_rate hverdict htype'
  cases hdenom'.symm.trans (Submission.rate_eq_ok hrate).1
  have hkind' := MetricType.rateKind?_eq_some_iff.2 htype'
  have hentry' := Submission.enteredRate?_of_rate hm' hkind' hrate later.1
  refine hafter later hlater _ (by rw [hentry']; rfl) ?_
  calc time (⟨kind, .text denom, rate, _⟩ : RateRecord)
      = m.updateTime := (Submission.updateTime_eq_iff hm hm').1 htime
    _ = r.updateTime := hyields.updateTime
    _ = time entry.2 := hread.updateTime

/-- **A record is backed as long as its post stands.** Where no metric was pushed out of its history
or found no room in it, a record has a metric that is retained and yields it, if and only if an
accepted submission stands that yields it. So all records are backed if every submission confirms
the one that it replaces. -/
theorem run_backs (steps : List (Service × Request)) (h : start.losesNothing steps = true) :
    ∃ t, (run steps).database = .ofTables t ∧
      ∀ kind denom payload, (t.table (Store.rateTable kind)).get? denom = some payload →
        ∃ index, Series.ofStored (RateRecord.codec kind) payload = .ok index ∧
          ∀ r ∈ index.items, r.kind = kind ∧ r.denom = .text denom ∧
            (∃ post ∈ (run steps).accepted, ∃ m, post.2.metric = .ok m ∧ m.Yields r) ∧
            (r.Backed t ↔
              ∃ s m, Stands (run steps).accepted s ∧ s.metric = .ok m ∧ m.Yields r) ∧
            ((run steps).accepted.Pairwise (fun p q => p.2.Confirms q.2) → r.Backed t) := by
  obtain ⟨t, hsound, hentire⟩ := exists_isEntire steps h
  refine ⟨t, hsound.database, fun kind denom payload hrow => ?_⟩
  obtain ⟨index, hindex, hposts⟩ := hsound.exists_post_of_record hrow
  refine ⟨index, hindex, fun r hr => ?_⟩
  obtain ⟨hkind, hnamed, before, post, after, hsplit, htype, hdenom, ⟨m, hm, hyields⟩, hlast⟩ :=
    hposts r hr
  refine ⟨hkind, hnamed, ⟨post, by rw [hsplit]; simp, m, hm, hyields⟩,
    hsound.backed_iff hentire, fun hconfirmed => ?_⟩
  have hstands : Stands (run steps).accepted post.2 := by
    refine ⟨before, post.1, after, hsplit, ?_⟩
    rintro later hlater ⟨hkey, htime⟩
    rw [hsplit, List.pairwise_append, List.pairwise_cons] at hconfirmed
    obtain ⟨htype', hdenom'⟩ :=
      hconfirmed.2.1.1 later hlater hkey.symm htime.symm kind htype
    exact hlast later hlater ⟨htype', hdenom'.trans hdenom, htime⟩
  exact (hsound.backed_iff hentire).2 ⟨post.2, m, hstands, hm, hyields⟩

def rateOne (key text : String) : Submission where
  key := key
  value := .text text
  type := .rate .redemption
  updateTime := .integer 1
  blockHeight := .integer 1
  attributes := some (RateAttributes.encode "d")

def replacingRun : List (Service × Request) :=
  [({}, .instantiate ⟨"a", none⟩), ({}, .post (some "a") (rateOne "k" "1")),
    ({}, .post (some "a") { rateOne "k" "1" with type := .other "x" })]

def sharedRun : List (Service × Request) :=
  replacingRun.concat ({}, .post (some "a") (rateOne "j" "1.0"))

def recordOne : RateRecord := ⟨.redemption, .text "d", .finite false 1 0, 1⟩

theorem run_backs_sharedRun : start.losesNothing sharedRun = true ∧
    ∃ t payload index, (run sharedRun).database = .ofTables t ∧
      (t.table (Store.rateTable .redemption)).get? "d" = some payload ∧
      Series.ofStored (RateRecord.codec .redemption) payload = .ok index ∧
      index.items = [recordOne] ∧ recordOne.Backed t := by
  have hloses : start.losesNothing sharedRun = true := by decide +kernel
  obtain ⟨t, hdatabase, hrows⟩ := run_backs sharedRun hloses
  have hitems : (run sharedRun).database.items? (Store.rates .redemption) "d" =
      some (.ok [recordOne]) := by decide +kernel
  rw [hdatabase] at hitems
  obtain ⟨payload, index, hrow, hindex, hitems⟩ := Database.row_of_items? hitems
  obtain ⟨index', hindex', hall⟩ := hrows .redemption "d" payload hrow
  cases hindex.symm.trans hindex'
  refine ⟨hloses, t, payload, index, hdatabase, hrow, hindex, hitems, ?_⟩
  obtain ⟨-, -, -, hbacked, -⟩ := hall recordOne (by rw [hitems]; simp)
  have haccepted : (run sharedRun).accepted = [(100, rateOne "k" "1"),
      (100, { rateOne "k" "1" with type := .other "x" })] ++ (100, rateOne "j" "1.0") :: [] := by
    decide +kernel
  have hdecode : RateAttributes.decode? (RateAttributes.encode "d") = some "d" := by decide +kernel
  refine hbacked.2 ⟨rateOne "j" "1.0", _, ⟨_, _, _, haccepted, nofun⟩, rfl, rfl, rfl,
    ⟨_, _, rfl, hdecode, rfl⟩, ⟨"1.0", .finite false 10 (-1), "1", rfl, ?_, ?_, ?_⟩⟩
  · decide +kernel
  · decide +kernel
  · decide +kernel

/-- The record of a rate that was replaced stays, and nothing backs it. -/
theorem replaced_not_backed : start.losesNothing replacingRun = true ∧
    (run replacingRun).accepted = [(100, rateOne "k" "1"),
      (100, { rateOne "k" "1" with type := .other "x" })] ∧
    ∃ t payload index, (run replacingRun).database = .ofTables t ∧
      (t.table (Store.rateTable .redemption)).get? "d" = some payload ∧
      Series.ofStored (RateRecord.codec .redemption) payload = .ok index ∧
      index.items = [recordOne] ∧ ¬recordOne.Backed t := by
  have hloses : start.losesNothing replacingRun = true := by decide +kernel
  obtain ⟨t, hsound, hentire⟩ := exists_isEntire replacingRun hloses
  have haccepted : (run replacingRun).accepted = [(100, rateOne "k" "1"),
      (100, { rateOne "k" "1" with type := .other "x" })] := by decide +kernel
  have hitems : (run replacingRun).database.items? (Store.rates .redemption) "d" =
      some (.ok [recordOne]) := by decide +kernel
  rw [hsound.database] at hitems
  obtain ⟨payload, index, hrow, hindex, hitems⟩ := Database.row_of_items? hitems
  refine ⟨hloses, haccepted, t, payload, index, hsound.database, hrow, hindex, hitems, ?_⟩
  rw [hsound.backed_iff hentire, haccepted]
  rintro ⟨s, m, ⟨before, capacity, after, hsplit, hlast⟩, hm, hyields⟩
  -- the rate is followed by the other one, and the other one is no rate
  rcases List.cons_eq_append_iff.1 hsplit with ⟨rfl, hrest⟩ | ⟨rest, rfl, hrest⟩
  · cases hrest
    exact hlast _ (List.mem_singleton_self _) ⟨rfl, rfl⟩
  · rcases List.cons_eq_append_iff.1 hrest with ⟨rfl, hrest⟩ | ⟨rest, rfl, hrest⟩
    · cases hrest
      cases (Submission.parts_of_metric hm).2.1.symm.trans hyields.type
    · simp at hrest

end Trace

end MetricLedger
