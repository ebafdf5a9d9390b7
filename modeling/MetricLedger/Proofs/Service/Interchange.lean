import MetricLedger.Proofs.Service.Runs
import MetricLedger.Proofs.Stored.Reordered

/-!
# Posts in another order

The answer to a post depends on the configuration only. What the rows come to depends on the order
of two posts only if they have the same time, and the same key or, being rates, the same kind and
denom.
-/

namespace MetricLedger

open Json (Value)
open Storage (ConfigRow Database Tables)

/-! ## Rows of the same entries -/

theorem Storage.Table.eq_of_get? {t t' : Storage.Table} (h : ∀ key, t.get? key = t'.get? key) :
    t = t' := by
  have hrows : t.rows = t'.rows := by
    refine eq_of_pairwise_of_mem_iff (fun _ _ => String.lt_asymm) t.sorted t'.sorted ?_
    rintro ⟨key, value⟩
    rw [Table.mem_rows_iff, Table.mem_rows_iff, h]
  cases t
  cases t'
  cases hrows
  rfl

theorem Storage.Tables.eq_of_table {t t' : Tables} (hconfig : t.config = t'.config)
    (hmetrics : t.table .metrics = t'.table .metrics)
    (hrates : ∀ kind, t.table (Store.rateTable kind) = t'.table (Store.rateTable kind)) :
    t = t' := by
  obtain ⟨metrics, redemptionRates, purchaseRates, row?⟩ := t
  cases hconfig
  cases hmetrics
  cases hrates .redemption
  cases hrates .purchase
  rfl

namespace Store

variable {α : Type} [Timed α] {store : Store α} {R : α → α → Prop} {t t' : Tables} {key : String}
  {entries others : List (Int × α)}

def Twins (R : α → α → Prop) (entries : List (Int × α)) (x y : α) : Prop :=
  ∃ z ∈ entries.map Prod.snd, R x z ∧ R y z

theorem Follows.exists_twins (h : store.Follows R t key entries)
    (h' : store.Follows R t' key others) (heq : historyOf entries = historyOf others) :
    ∃ s? s'?, store.Shows t key s? ∧ store.Shows t' key s'? ∧
      Option.Rel (Series.Related (Twins R entries)) s? s'? := by
  obtain ⟨s?, hshows, hrel⟩ := h
  obtain ⟨s'?, hshows', hrel'⟩ := h'
  rw [← heq] at hrel'
  refine ⟨s?, s'?, hshows, hshows', ?_⟩
  cases hhistory : historyOf entries with
  | none =>
    rw [hhistory] at hrel hrel'
    cases hrel
    cases hrel'
    exact .none
  | some history =>
    rw [hhistory] at hrel hrel'
    cases hrel with
    | some hrel =>
      cases hrel' with
      | some hrel' =>
        have hposted : ∀ z ∈ history.items, z ∈ entries.map Prod.snd := fun z hz =>
          mem_of_mem_lastOfEachTime (mem_of_mem_historyOf hhistory hz)
        refine .some ⟨hrel.capacity.trans hrel'.capacity.symm, ?_⟩
        have hfrom := (List.forall₂_and_left ..).2 ⟨hposted, hrel.items.flip⟩
        refine (forall₂_comp hfrom.flip hrel'.items.flip).imp fun x y hxy => ?_
        obtain ⟨z, ⟨hz, hxz⟩, hyz⟩ := hxy
        exact ⟨z, hz, hxz, hyz⟩

theorem Follows.row_eq (h : store.Follows R t key entries) (h' : store.Follows R t' key others)
    (heq : historyOf entries = historyOf others)
    (hR : ∀ z ∈ entries.map Prod.snd, ∀ x y, R x z → R y z → x = y) :
    (t.table store.table).get? key = (t'.table store.table).get? key := by
  obtain ⟨s?, s'?, hshows, hshows', hrel⟩ := h.exists_twins h' heq
  cases hrel with
  | none => exact hshows.trans hshows'.symm
  | @some s s' hrel =>
    have hitems : s.items = s'.items := by
      refine List.forall₂_eq_eq_eq ▸ hrel.items.imp fun x y hxy => ?_
      obtain ⟨z, hz, hx, hy⟩ := hxy
      exact hR z hz x y hx hy
    obtain ⟨payload, hrow, hstored⟩ := hshows
    obtain ⟨payload', hrow', hstored'⟩ := hshows'
    have hpayload : s.toStored store.codec = s'.toStored store.codec := by
      rw [Series.toStored, Series.toStored, hitems, hrel.capacity]
    rw [hrow, hrow', Except.ok.inj (hstored.stored.symm.trans (hpayload.trans hstored'.stored))]

end Store

theorem RateRecord.IsReadBackOf.unique {r r' posted : RateRecord} (h : r.IsReadBackOf posted)
    (h' : r'.IsReadBackOf posted) : r = r' := by
  obtain ⟨text, htext, hread, -⟩ := h.rate
  obtain ⟨text', htext', hread', -⟩ := h'.rate
  cases htext.symm.trans htext'
  cases r
  cases r'
  simp only [RateRecord.mk.injEq]
  exact ⟨h.kind.trans h'.kind.symm, h.denom.trans h'.denom.symm,
    Option.some.inj (hread.symm.trans hread'), h.updateTime.trans h'.updateTime.symm⟩

/-! ## Posts one after the other -/

/-- The two submissions have the same time, and the same key or, being rates, the same kind and
denom. -/
def Submission.Collides (s s' : Submission) : Prop :=
  s.updateTime = s'.updateTime ∧ (s.key = s'.key ∨
    ∃ kind denom, (s.type.rateKind? = some kind ∧ s.denom = .ok denom) ∧
      s'.type.rateKind? = some kind ∧ s'.denom = .ok denom)

namespace Submission

theorem collides_of_enteredMetric? {key : String} {post post' : Int × Submission}
    {entry entry' : Int × Metric} (h : enteredMetric? key post = some entry)
    (h' : enteredMetric? key post' = some entry') (htime : time entry.2 = time entry'.2) :
    post.2.Collides post'.2 := by
  obtain ⟨hm, hkey, -⟩ := enteredMetric?_eq_some h
  obtain ⟨hm', hkey', -⟩ := enteredMetric?_eq_some h'
  exact ⟨(updateTime_eq_iff hm' hm).2 htime, .inl (hkey.trans hkey'.symm)⟩

theorem collides_of_enteredRate? {kind : RateKind} {denom : String} {post post' : Int × Submission}
    {entry entry' : Int × RateRecord} (h : enteredRate? kind denom post = some entry)
    (h' : enteredRate? kind denom post' = some entry') (htime : time entry.2 = time entry'.2) :
    post.2.Collides post'.2 := by
  obtain ⟨m, rate, hm, hkind, hrate, rfl⟩ := enteredRate?_eq_some h
  obtain ⟨m', rate', hm', hkind', hrate', rfl⟩ := enteredRate?_eq_some h'
  exact ⟨(updateTime_eq_iff hm' hm).2 htime,
    .inr ⟨kind, denom, ⟨hkind, (rate_eq_ok hrate).1⟩, hkind', (rate_eq_ok hrate').1⟩⟩

end Submission

namespace Service

def postAll (s : Service) : List (Option String × Submission) → Database →
    List (Except Failure Acknowledgment) × Database
  | [], db => ([], db)
  | (sender, submission) :: rest, db =>
    let (result, db') := s.post sender submission db
    let (results, db'') := s.postAll rest db'
    (result :: results, db'')

def reply (row? : Option ConfigRow) (call : Option String × Submission) :
    Except Failure Acknowledgment :=
  (verdict row? call.1 call.2).map .posted

def taken? (s : Service) (row? : Option ConfigRow) (call : Option String × Submission) :
    Option (Int × Submission) :=
  match verdict row? call.1 call.2 with
  | .ok _ => some (s.capacity, call.2)
  | .error _ => none

theorem taken?_eq_some {s : Service} {row? : Option ConfigRow}
    {call : Option String × Submission} {post : Int × Submission}
    (h : s.taken? row? call = some post) :
    post = (s.capacity, call.2) ∧ ∃ m, reply row? call = .ok (.posted m) := by
  unfold taken? at h
  split at h
  · rename_i m hm
    refine ⟨(Option.some.inj h).symm, m, ?_⟩
    rw [reply, hm]
    rfl
  · cases h

theorem postAll_of_follow {t : Tables} {posts : List (Int × Submission)} (h : t.Follow posts posts)
    (s : Service) (calls : List (Option String × Submission)) :
    ∃ t', s.postAll calls (.ofTables t) = (calls.map (reply t.config), .ofTables t') ∧
      t'.config = t.config ∧ t'.Follow (posts ++ calls.filterMap (s.taken? t.config))
        (posts ++ calls.filterMap (s.taken? t.config)) := by
  induction calls generalizing t posts with
  | nil => exact ⟨t, rfl, rfl, by rwa [List.filterMap_nil, List.append_nil]⟩
  | cons call rest ih =>
    obtain ⟨sender, submission⟩ := call
    have hpost := post_of_follow h s sender submission
    cases hverdict : verdict t.config sender submission with
    | error e =>
      rw [hverdict] at hpost
      have hreply : reply t.config (sender, submission) = .error e := by
        rw [reply, hverdict]
        rfl
      have htaken : s.taken? t.config (sender, submission) = none := by
        rw [taken?, hverdict]
      obtain ⟨t', hrest, hconfig, hfollow⟩ := ih h
      refine ⟨t', ?_, hconfig, ?_⟩
      · rw [postAll, hpost, List.map_cons, hreply]
        dsimp only
        rw [hrest]
      · rwa [List.filterMap_cons_none htaken]
    | ok m =>
      rw [hverdict] at hpost
      have hreply : reply t.config (sender, submission) = .ok (.posted m) := by
        rw [reply, hverdict]
        rfl
      have htaken : s.taken? t.config (sender, submission) = some (s.capacity, submission) := by
        rw [taken?, hverdict]
      obtain ⟨t'', hanswer, hfollow, hagrees⟩ := hpost
      obtain ⟨t', hrest, hconfig, hfollow'⟩ := ih hfollow
      rw [hagrees.config] at hrest hconfig hfollow'
      refine ⟨t', ?_, hconfig, ?_⟩
      · rw [postAll, hanswer, List.map_cons, hreply]
        dsimp only
        rw [hrest]
      · rw [List.append_assoc] at hfollow'
        rwa [List.filterMap_cons_some htaken]

section
variable {α : Type} [Timed α] {entered? : Int × Submission → Option (Int × α)}

/-- The entries of posts make up the same history in any order that keeps those of two colliding
ones. -/
theorem historyOf_taken (hcapacity : ∀ post entry, entered? post = some entry → entry.1 = post.1)
    (hcollides : ∀ post post' entry entry', entered? post = some entry →
      entered? post' = some entry' → time entry.2 = time entry'.2 → post.2.Collides post'.2)
    {calls calls' : List (Option String × Submission)}
    (h : Reorders (fun call call' => call.2.Collides call'.2) calls calls') (s : Service)
    (row? : Option ConfigRow) (posts : List (Int × Submission)) :
    historyOf ((posts ++ calls.filterMap (s.taken? row?)).filterMap entered?) =
      historyOf ((posts ++ calls'.filterMap (s.taken? row?)).filterMap entered?) := by
  rw [List.filterMap_append, List.filterMap_append, List.filterMap_filterMap,
    List.filterMap_filterMap]
  have hcapacities : ∀ list : List (Option String × Submission),
      ∀ entry ∈ list.filterMap fun call => (s.taken? row? call).bind entered?,
        entry.1 = s.capacity := by
    intro list entry hentry
    obtain ⟨call, -, hcall⟩ := List.mem_filterMap.1 hentry
    obtain ⟨post, hpost, hentered⟩ := Option.bind_eq_some_iff.1 hcall
    rw [hcapacity post entry hentered, (taken?_eq_some hpost).1]
  refine historyOf_congr _ (hcapacities calls) (hcapacities calls') fun t => ?_
  refine h.filterMap_filter_eq fun call call' entry entry' hentry hentry' htime htime' => ?_
  obtain ⟨post, hpost, hentered⟩ := Option.bind_eq_some_iff.1 hentry
  obtain ⟨post', hpost', hentered'⟩ := Option.bind_eq_some_iff.1 hentry'
  have hsame : time entry.2 = time entry'.2 := (eq_of_beq htime).trans (eq_of_beq htime').symm
  have hcollide := hcollides post post' entry entry' hentered hentered' hsame
  rwa [(taken?_eq_some hpost).1, (taken?_eq_some hpost').1] at hcollide

end

section
variable {calls calls' : List (Option String × Submission)}
  (h : Reorders (fun call call' => call.2.Collides call'.2) calls calls') (s : Service)
  (row? : Option ConfigRow) (posts : List (Int × Submission))
include h

theorem historyOf_metrics (key : String) :
    historyOf ((posts ++ calls.filterMap (s.taken? row?)).filterMap
        (Submission.enteredMetric? key)) =
      historyOf ((posts ++ calls'.filterMap (s.taken? row?)).filterMap
        (Submission.enteredMetric? key)) := by
  refine historyOf_taken ?_ ?_ h s row? posts
  · intro post entry hentry
    exact (Submission.enteredMetric?_eq_some hentry).2.2
  · intro post post' entry entry' hentry hentry'
    exact Submission.collides_of_enteredMetric? hentry hentry'

theorem historyOf_rates (kind : RateKind) (denom : String) :
    historyOf ((posts ++ calls.filterMap (s.taken? row?)).filterMap
        (Submission.enteredRate? kind denom)) =
      historyOf ((posts ++ calls'.filterMap (s.taken? row?)).filterMap
        (Submission.enteredRate? kind denom)) := by
  refine historyOf_taken ?_ ?_ h s row? posts
  · intro post entry hentry
    obtain ⟨m, rate, -, -, -, rfl⟩ := Submission.enteredRate?_eq_some hentry
    rfl
  · intro post post' entry entry' hentry hentry'
    exact Submission.collides_of_enteredRate? hentry hentry'

end

theorem isText_of_entered {calls : List (Option String × Submission)} {s : Service}
    {row? : Option ConfigRow} {posts : List (Int × Submission)} {key : String} {m : Metric}
    (hposts : ∀ post ∈ posts, post.2.value.isText = true)
    (hcalls : ∀ call ∈ calls, ∀ a, reply row? call = .ok a → call.2.value.isText = true)
    (hm : m ∈ ((posts ++ calls.filterMap (s.taken? row?)).filterMap
      (Submission.enteredMetric? key)).map Prod.snd) :
    ∃ text, m.value = .text text := by
  obtain ⟨entry, hentry, rfl⟩ := List.mem_map.1 hm
  obtain ⟨post, hpost, hentered⟩ := List.mem_filterMap.1 hentry
  have htext : post.2.value.isText = true := by
    rcases List.mem_append.1 hpost with hpost | hpost
    · exact hposts post hpost
    · obtain ⟨call, hcall, htaken⟩ := List.mem_filterMap.1 hpost
      obtain ⟨rfl, m, hreply⟩ := taken?_eq_some htaken
      exact hcalls call hcall _ hreply
  rw [(Submission.parts_of_metric (Submission.enteredMetric?_eq_some hentered).1).1]
  cases hvalue : post.2.value with
  | text text => exact ⟨text, rfl⟩
  | _ =>
    rw [hvalue] at htext
    cases htext

end Service

/-- **The order of arrival does not matter**, but for submissions that collide. From any state of
the service on, posts that are made in another order, in which no two colliding ones change places,
are answered as they were, and leave the same records and, for texts, the same metrics. A value that
is no text may be kept in another spelling. -/
theorem Trace.posts_interchange (steps : List (Service × Request)) (s : Service)
    {calls calls' : List (Option String × Submission)}
    (h : Reorders (fun call call' => call.2.Collides call'.2) calls calls') :
    ∃ t t' reply, s.postAll calls (run steps).database = (calls.map reply, .ofTables t) ∧
      s.postAll calls' (run steps).database = (calls'.map reply, .ofTables t') ∧
      t.config = t'.config ∧
      (∀ kind, t.table (Store.rateTable kind) = t'.table (Store.rateTable kind)) ∧
      (∀ key, ∃ s? s'?, Store.metrics.Shows t key s? ∧ Store.metrics.Shows t' key s'? ∧
        Option.Rel (Series.Related fun m m' => ∃ posted, m.Resembles posted ∧ m'.Resembles posted)
          s? s'?) ∧
      ((∀ post ∈ (run steps).accepted, post.2.value.isText = true) →
        (∀ call ∈ calls, ∀ a, reply call = .ok a → call.2.value.isText = true) → t = t') := by
  obtain ⟨t₀, hsound⟩ := sound_run steps
  obtain ⟨t, hanswers, hconfig, hfollow⟩ := Service.postAll_of_follow hsound.follow s calls
  obtain ⟨t', hanswers', hconfig', hfollow'⟩ := Service.postAll_of_follow hsound.follow s calls'
  have hmetrics := Service.historyOf_metrics h s t₀.config (run steps).accepted
  have hrates := Service.historyOf_rates h s t₀.config (run steps).accepted
  have htables : ∀ kind, t.table (Store.rateTable kind) = t'.table (Store.rateTable kind) := by
    intro kind
    refine Storage.Table.eq_of_get? fun denom => ?_
    exact (hfollow.rates kind denom).row_eq (hfollow'.rates kind denom) (hrates kind denom)
      fun _ _ _ _ => RateRecord.IsReadBackOf.unique
  refine ⟨t, t', Service.reply t₀.config, ?_, ?_, hconfig.trans hconfig'.symm, htables,
    fun key => ?_, fun htext htexts => ?_⟩
  · rw [hsound.database, hanswers]
  · rw [hsound.database, hanswers']
  · obtain ⟨s?, s'?, hshows, hshows', hrel⟩ :=
      (hfollow.metrics key).exists_twins (hfollow'.metrics key) (hmetrics key)
    refine ⟨s?, s'?, hshows, hshows', ?_⟩
    cases hrel with
    | none => exact .none
    | some hrel => exact .some ⟨hrel.capacity, hrel.items.imp fun _ _ ⟨z, _, hxz⟩ => ⟨z, hxz⟩⟩
  · refine Storage.Tables.eq_of_table (hconfig.trans hconfig'.symm) ?_ htables
    refine Storage.Table.eq_of_get? fun key => ?_
    refine (hfollow.metrics key).row_eq (hfollow'.metrics key) (hmetrics key)
      fun z hz x y hx hy => ?_
    obtain ⟨text, hvalue⟩ := Service.isText_of_entered htext htexts hz
    rw [hx.eq_of_text hvalue, hy.eq_of_text hvalue]

def note (value : String) (time : Int) : Submission :=
  ⟨"k", .text value, .other "x", .integer time, .integer 1, none⟩

/-- Of these two posts the last one finds no room, or pushes out the first one if the order is
reversed. -/
def notes : List (Option String × Submission) :=
  [(some "a", note "new" 2), (some "a", note "old" 1)]

theorem Trace.posts_interchange_notes :
    Reorders (fun call call' => call.2.Collides call'.2) notes notes.reverse ∧
    ∃ t reply,
      Service.postAll { capacity := 1 } notes
          (run [({}, .instantiate ⟨"a", none⟩)]).database = (notes.map reply, .ofTables t) ∧
      Service.postAll { capacity := 1 } notes.reverse
          (run [({}, .instantiate ⟨"a", none⟩)]).database =
        (notes.reverse.map reply, .ofTables t) := by
  have hreorders : Reorders (fun call call' => call.2.Collides call'.2) notes notes.reverse :=
    reorders_pair fun hcollide => absurd hcollide.1 (by decide)
  obtain ⟨t, t', reply, hanswers, hanswers', -, -, -, hequal⟩ :=
    posts_interchange [({}, .instantiate ⟨"a", none⟩)] { capacity := 1 } hreorders
  have htables : t = t' := by
    refine hequal (fun post hpost => nomatch hpost) fun call hcall a _ => ?_
    simp only [notes, List.mem_cons, List.not_mem_nil, or_false] at hcall
    rcases hcall with rfl | rfl
    · rfl
    · rfl
  subst htables
  exact ⟨hreorders, t, reply, hanswers, hanswers'⟩

end MetricLedger
