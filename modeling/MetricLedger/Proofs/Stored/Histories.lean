import MetricLedger.Proofs.Stored.Recorded

/-!
# Histories of entries

The row of a key against the entries that were made under the key, each with the capacity that a new
history would have got: the first entry gives the capacity, and every entry an item.
-/

namespace MetricLedger

open Storage (Action TableName Tables)
open Json (Value)

variable {α : Type} [Timed α]

def historyOf : List (Int × α) → Option (Series α)
  | [] => none
  | (capacity, x) :: rest => some ((Series.empty capacity).addAll (x :: rest.map Prod.snd))

theorem historyOf_concat (entries : List (Int × α)) (capacity : Int) (x : α) :
    historyOf (entries ++ [(capacity, x)]) =
      some (((historyOf entries).getD (.empty capacity)).add x).1 := by
  cases entries with
  | nil => rfl
  | cons entry rest =>
    obtain ⟨first, y⟩ := entry
    simp only [historyOf, List.cons_append, List.map_append, List.map_cons, List.map_nil,
      Option.getD_some]
    rw [← Series.addAll_concat]
    rfl

theorem mem_of_mem_historyOf {entries : List (Int × α)} {s : Series α}
    (h : historyOf entries = some s) {x : α} (hx : x ∈ s.items) :
    x ∈ lastOfEachTime (entries.map Prod.snd) := by
  cases entries with
  | nil => cases h
  | cons entry rest =>
    cases h
    rw [Series.items_addAll] at hx
    exact mem_byTime.1 (List.mem_of_mem_drop hx)

structure Codec.Renders (codec : Codec α) (R : α → α → Prop) : Prop where
  time : ∀ x y, R x y → time x = time y
  kept : ∀ x kept y, codec.Settled x → codec.Settled kept → codec.Alike x kept → R x y → R kept y

theorem Codec.Renders.kept_forall₂ {codec : Codec α} {R : α → α → Prop} (hR : codec.Renders R)
    {xs kept ys : List α} (h : List.Forall₂ codec.Alike xs kept) (h' : List.Forall₂ R xs ys)
    (hxs : ∀ x ∈ xs, codec.Settled x) (hkept : ∀ x ∈ kept, codec.Settled x) :
    List.Forall₂ R kept ys := by
  induction h generalizing ys with
  | nil =>
    cases h'
    exact .nil
  | cons hx _ ih =>
    cases h' with
    | cons hy hrest =>
      refine .cons ?_ (ih hrest (fun x h => hxs x (.tail _ h)) (fun x h => hkept x (.tail _ h)))
      exact hR.kept _ _ _ (hxs _ (.head _)) (hkept _ (.head _)) hx hy

namespace Store

variable {store : Store α} {R : α → α → Prop} {t : Tables} {key : String}
  {entries : List (Int × α)}

/-- The row of a key is that of the history of the entries, as far as what is read back goes. -/
def Follows (store : Store α) (R : α → α → Prop) (t : Tables) (key : String)
    (entries : List (Int × α)) : Prop :=
  ∃ s?, store.Shows t key s? ∧ Option.Rel (Series.Related R) s? (historyOf entries)

theorem follows_nil (h : (t.table store.table).get? key = none) : store.Follows R t key [] :=
  ⟨none, h, .none⟩

theorem Follows.row_eq_none_iff (h : store.Follows R t key entries) :
    (t.table store.table).get? key = none ↔ entries = [] := by
  obtain ⟨s?, hshows, hrel⟩ := h
  cases entries with
  | nil =>
    cases hrel
    exact ⟨fun _ => rfl, fun _ => hshows⟩
  | cons entry rest =>
    cases hrel with
    | some hrel =>
      obtain ⟨payload, hrow, -⟩ := hshows
      rw [hrow]
      exact ⟨nofun, nofun⟩

theorem Follows.of_row_eq {t' : Tables} (h : store.Follows R t key entries)
    (hrow : (t'.table store.table).get? key = (t.table store.table).get? key) :
    store.Follows R t' key entries := by
  obtain ⟨s?, hshows, hrel⟩ := h
  exact ⟨s?, hshows.of_row_eq hrow, hrel⟩

theorem Follows.does_record (h : store.Follows R t key entries) (hR : store.codec.Renders R)
    {x y : α} (hxy : store.codec.Settles x y) (hyx : R y x) (capacity : Int) :
    ∃ payload, (store.record capacity key x).Does t
        (.ok (((historyOf entries).getD (.empty capacity)).add x).2)
        (t.put store.table key payload) ∧
      store.Follows R (t.put store.table key payload) key (entries ++ [(capacity, x)]) := by
  obtain ⟨s?, hshows, hrel⟩ := h
  obtain ⟨payload, s', hdoes, hstored, halike⟩ := Store.does_record hshows hxy capacity
  have hbefore : Series.Related R (s?.getD (.empty capacity))
      ((historyOf entries).getD (.empty capacity)) := Series.related_getD hrel capacity
  obtain ⟨hafter, houtcome⟩ := hbefore.add hR.time hyx
  rw [houtcome] at hdoes
  refine ⟨payload, hdoes, some s', ⟨payload, Tables.get?_put_self, hstored⟩, ?_⟩
  rw [historyOf_concat]
  -- the row may have kept what it held, which is only alike
  refine .some ⟨halike.capacity.symm.trans hafter.capacity, ?_⟩
  exact hR.kept_forall₂ halike.items hafter.items
    (Series.settled_add (settled_of_shows hshows capacity) (Codec.settled_of_settles hxy))
    hstored.settled

/-- The row of a key lists the newest items of its entries, the last one of each time, as many as
the first capacity allows. -/
def Lists (store : Store α) (R : α → α → Prop) (t : Tables) (key : String) :
    List (Int × α) → Prop
  | [] => (t.table store.table).get? key = none
  | (capacity, x) :: rest => ∃ payload s, (t.table store.table).get? key = some payload ∧
      Series.ofStored store.codec payload = .ok s ∧ s.capacity = capacity ∧
      List.Forall₂ R s.items (retained (max 0 capacity).toNat (x :: rest.map Prod.snd))

theorem Lists.mono {R' : α → α → Prop} (h : store.Lists R t key entries)
    (hR : ∀ x y, R x y → R' x y) : store.Lists R' t key entries := by
  cases entries with
  | nil => exact h
  | cons entry rest =>
    obtain ⟨payload, s, hrow, hstored, hcapacity, hitems⟩ := h
    exact ⟨payload, s, hrow, hstored, hcapacity, hitems.imp hR⟩

theorem Follows.lists (h : store.Follows R t key entries) : store.Lists R t key entries := by
  obtain ⟨s?, hshows, hrel⟩ := h
  cases entries with
  | nil =>
    cases hrel
    exact hshows
  | cons entry rest =>
    obtain ⟨capacity, x⟩ := entry
    cases hrel with
    | some hrel =>
      obtain ⟨payload, hrow, hstored⟩ := hshows
      refine ⟨payload, _, hrow, hstored.ofStored, ?_, ?_⟩
      · rw [hrel.capacity, Series.capacity_addAll]
        rfl
      · have hitems := hrel.items
        rw [Series.items_addAll, Series.room, max_comm] at hitems
        exact hitems

theorem Follows.exists_related (h : store.Follows R t key entries) (hne : entries ≠ []) :
    ∃ s capacity, store.Holds t key s ∧
      historyOf entries = some ((Series.empty capacity).addAll (entries.map Prod.snd)) ∧
      Series.Related R s ((Series.empty capacity).addAll (entries.map Prod.snd)) := by
  obtain ⟨s?, hshows, hrel⟩ := h
  cases entries with
  | nil => exact absurd rfl hne
  | cons entry rest =>
    cases hrel with
    | some hrel => exact ⟨_, entry.1, hshows, rfl, hrel⟩

/-- What the row holds is what is read back of last entries of their times. -/
theorem Follows.posted (h : store.Follows R t key entries) {payload : Value}
    (hrow : (t.table store.table).get? key = some payload) :
    ∃ s, Series.ofStored store.codec payload = .ok s ∧
      ∀ x ∈ s.items, ∃ posted ∈ lastOfEachTime (entries.map Prod.snd), R x posted := by
  have hne : entries ≠ [] := fun hnil => by
    rw [h.row_eq_none_iff.2 hnil] at hrow
    cases hrow
  obtain ⟨s, capacity, ⟨payload', hrow', hstored⟩, hhistory, hrel⟩ := h.exists_related hne
  cases hrow.symm.trans hrow'
  refine ⟨s, hstored.ofStored, fun x hx => ?_⟩
  obtain ⟨posted, hposted, hxy⟩ := exists_of_mem_forall₂ hrel.items hx
  exact ⟨posted, mem_of_mem_historyOf hhistory hposted, hxy⟩

/-- The time of an entry is there, or the row is full and has later times only. -/
theorem Follows.covers (h : store.Follows R t key entries) (hR : ∀ x y, R x y → time x = time y)
    {entry : Int × α} (hentry : entry ∈ entries) :
    ∃ s, store.Holds t key s ∧ (s.holds (time entry.2) = true ∨ s.Shut (time entry.2)) := by
  obtain ⟨s, capacity, hholds, -, hrel⟩ := h.exists_related (List.ne_nil_of_mem hentry)
  refine ⟨s, hholds, ?_⟩
  have htime : ∃ x ∈ (Series.empty capacity).items ++ entries.map Prod.snd,
      time x = time entry.2 := ⟨entry.2, List.mem_map_of_mem hentry, rfl⟩
  rcases Series.holds_or_shut_addAll htime with hheld | hshut
  · exact .inl ((hrel.holds_eq hR _).trans hheld)
  · exact .inr (hrel.shut hR hshut)

/-- What the row holds of a time is what is read back of the last entry of that time. -/
theorem Follows.last {before later : List (Int × α)} {capacity : Int} {posted : α}
    (h : store.Follows R t key (before ++ (capacity, posted) :: later))
    (hR : store.codec.Renders R) (hlater : ∀ entry ∈ later, time entry.2 ≠ time posted) :
    ∃ s, store.Holds t key s ∧ ∀ x ∈ s.items, time x = time posted → R x posted := by
  obtain ⟨s, first, hholds, hhistory, hrel⟩ := h.exists_related (by simp)
  refine ⟨s, hholds, fun x hx htime => ?_⟩
  obtain ⟨y, hy, hxy⟩ := exists_of_mem_forall₂ hrel.items hx
  -- of the items of that time only the last one can be among those that are kept
  have hlast := mem_of_mem_historyOf hhistory hy
  rw [List.map_append, List.map_cons] at hlast
  have hlater' : ∀ z ∈ later.map Prod.snd, time z ≠ time posted := by
    intro z hz
    obtain ⟨entry, hentry, rfl⟩ := List.mem_map.1 hz
    exact hlater entry hentry
  have hposted := eq_of_mem_lastOfEachTime hlater' hlast ((hR.time x y hxy).symm.trans htime)
  exact hposted ▸ hxy

end Store

end MetricLedger
