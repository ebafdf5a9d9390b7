import MetricLedger.Proofs.Stored.Histories
import MetricLedger.Proofs.Stored.Queries

/-!
# Ways of reading

A key can be asked for, its history can be read whole or in part or for its newest item, and a scan
of the table gives the newest item of each key. Where no history is empty they all tell the same.
-/

namespace MetricLedger

open List (Forall₂)
open Json (Value)
open Storage (Action Tables)

theorem Storage.Action.does_mapM {β γ : Type} {f : β → Action γ} {t : Tables} {xs : List β}
    {ys : List γ} (h : Forall₂ (fun x y => (f x).Does t (.ok y) t) xs ys) :
    (xs.mapM f).Does t (.ok ys) t := by
  induction h with
  | nil => exact does_pure [] t
  | cons hx _ ih =>
    rw [List.mapM_cons]
    exact hx.bind (ih.bind (does_pure _ t))

theorem Storage.Table.mem_keys_iff {t : Storage.Table} {key : String} :
    key ∈ t.rows.map Prod.fst ↔ t.get? key ≠ none := by
  simp only [List.mem_map, Prod.exists, exists_and_right, exists_eq_right, Table.mem_rows_iff,
    ne_eq, Option.eq_none_iff_forall_ne_some, not_forall, not_not]

section
variable {α : Type} [Timed α]

theorem retained_ne_nil {n : Nat} {items : List α} (hn : 0 < n) (h : items ≠ []) :
    retained n items ≠ [] := by
  obtain ⟨x, hx⟩ := List.exists_mem_of_ne_nil items h
  obtain ⟨y, hy, -⟩ := time_mem_lastOfEachTime.2 ⟨x, hx, rfl⟩
  have hpos := List.length_pos_of_mem (mem_byTime.2 hy)
  rw [retained, ne_eq, ← List.length_eq_zero_iff, length_rtake]
  omega

theorem historyOf_ne_nil {entries : List (Int × α)} {s : Series α}
    (hroom : ∀ entry ∈ entries, 1 ≤ entry.1) (h : historyOf entries = some s) : s.items ≠ [] := by
  cases entries with
  | nil => cases h
  | cons entry rest =>
    cases h
    rw [Series.items_addAll]
    have hentry := hroom entry List.mem_cons_self
    refine retained_ne_nil ?_ (by simp)
    rw [Series.room, Series.empty]
    simp only
    omega

namespace Series

def listed (s? : Option (Series α)) : List α := (s?.map newestFirst).getD []

theorem listed_some (s : Series α) : listed (some s) = s.newestFirst := rfl

theorem mem_listed {s? : Option (Series α)} {x : α} :
    x ∈ listed s? ↔ ∃ s, s? = some s ∧ x ∈ s.items := by
  cases s? <;> simp [listed, newestFirst]

theorem latest?_eq_head? (s : Series α) : s.latest? = s.newestFirst.head? :=
  List.head?_reverse.symm

theorem descending_listed (s? : Option (Series α)) :
    (listed s?).Pairwise fun x y => time y < time x := by
  cases s? with
  | none => exact .nil
  | some s => exact List.pairwise_reverse.2 s.ascending

end Series

end

namespace Store

variable {α : Type} [Timed α] {store : Store α} {t : Tables} {key : String} {R : α → α → Prop}

/-- What a key is answered with in every way of asking for it, if these are its items, the newest
one first. -/
structure Answers (store : Store α) (t : Tables) (key : String) (items : List α) : Prop where
  descending : items.Pairwise fun x y => time y < time x
  isStored : (Storage.History.isStored store.table key).Does t (.ok (!items.isEmpty)) t
  latest : (store.latest key).Does t
    (match items.head? with
      | some x => .ok x
      | none => .error (.refused (.notFound store.name key))) t
  historical : (store.historical key none).Does t
    (if items = [] then .error (.refused (.notFound store.name key)) else .ok items) t
  limited : ∀ n, (store.historical key (some n)).Does t
    (if items = [] then .error (.refused (.notFound store.name key)) else .ok (items.take n)) t

omit [Timed α] in
theorem does_isStored (store : Store α) (t : Tables) (key : String) :
    (Storage.History.isStored store.table key).Does t
      (.ok ((t.table store.table).get? key).isSome) t := rfl

theorem does_load_of_none (h : (t.table store.table).get? key = none) :
    (store.load key).Does t (.error (.refused (.notFound store.name key))) t := by
  have hshows : store.Shows t key none := h
  exact (does_load? hshows).bind (Action.does_refuse _ t)

theorem Shows.row_eq_none_iff {s? : Option (Series α)} (h : store.Shows t key s?)
    (hfilled : ∀ s, s? = some s → s.items ≠ []) :
    (t.table store.table).get? key = none ↔ Series.listed s? = [] := by
  cases s? with
  | none => exact ⟨fun _ => rfl, fun _ => h⟩
  | some s =>
    obtain ⟨payload, hrow, -⟩ := h
    rw [hrow]
    exact ⟨nofun, fun hnil => absurd (List.reverse_eq_nil_iff.1 hnil) (hfilled s rfl)⟩

theorem Shows.answers {s? : Option (Series α)} (h : store.Shows t key s?)
    (hfilled : ∀ s, s? = some s → s.items ≠ []) : store.Answers t key (Series.listed s?) := by
  have hstored := does_isStored store t key
  cases s? with
  | none =>
    have hnone : (t.table store.table).get? key = none := h
    have hload := does_load_of_none hnone
    rw [hnone] at hstored
    exact ⟨.nil, hstored, hload.bind_error, hload.bind_error, fun _ => hload.bind_error⟩
  | some s =>
    have hholds : store.Holds t key s := h
    have hne : s.newestFirst ≠ [] := fun hnil => hfilled s rfl (List.reverse_eq_nil_iff.1 hnil)
    obtain ⟨payload, hrow, -⟩ := h
    rw [hrow] at hstored
    rw [Series.listed_some]
    refine ⟨Series.descending_listed (some s), ?_, ?_, ?_, fun n => ?_⟩
    · rwa [List.isEmpty_eq_false_iff.2 hne]
    · rw [← s.latest?_eq_head?]
      exact does_latest hholds
    · rw [if_neg hne]
      exact does_historical hholds none
    · rw [if_neg hne]
      exact does_historical hholds (some n)

/-- The entries of a key leave it without a history, or with one that has items, which are what is
read back of the entries. -/
theorem Follows.exists_filled {entries : List (Int × α)} (h : store.Follows R t key entries)
    (hroom : ∀ entry ∈ entries, 1 ≤ entry.1) :
    ∃ s?, store.Shows t key s? ∧ (∀ s, s? = some s → s.items ≠ []) ∧
      ∀ x ∈ Series.listed s?, ∃ entry ∈ entries, R x entry.2 := by
  obtain ⟨s?, hshows, hrel⟩ := h
  have hhistory : ∀ s, s? = some s →
      ∃ history, historyOf entries = some history ∧ Series.Related R s history := by
    rintro s rfl
    generalize historyOf entries = history? at hrel
    cases hrel with
    | some hrel => exact ⟨_, rfl, hrel⟩
  refine ⟨s?, hshows, fun s hs hnil => ?_, fun x hx => ?_⟩
  · obtain ⟨history, hhistory, hrel⟩ := hhistory s hs
    have hitems := hrel.items
    rw [hnil] at hitems
    exact historyOf_ne_nil hroom hhistory (List.forall₂_nil_left_iff.1 hitems)
  · obtain ⟨s, hs, hmem⟩ := Series.mem_listed.1 hx
    obtain ⟨history, hhistory, hrel⟩ := hhistory s hs
    obtain ⟨y, hy, hxy⟩ := exists_of_mem_forall₂ hrel.items hmem
    have hposted := mem_of_mem_lastOfEachTime (mem_of_mem_historyOf hhistory hy)
    obtain ⟨entry, hentry, rfl⟩ := List.mem_map.1 hposted
    exact ⟨entry, hentry, hxy⟩

/-- A scan gives the newest item of each key that there is, in the order of the keys. -/
theorem does_allLatest {s? : String → Option (Series α)} (h : ∀ key, store.Shows t key (s? key))
    (hfilled : ∀ key s, s? key = some s → s.items ≠ []) :
    ∃ keys latest, store.allLatest.Does t (.ok latest) t ∧ keys.Pairwise (· < ·) ∧
      (∀ key, key ∈ keys ↔ Series.listed (s? key) ≠ []) ∧
      Forall₂ (fun key x => (Series.listed (s? key)).head? = some x) keys latest := by
  have hrow : ∀ row ∈ (t.table store.table).rows, ∃ x,
      (do return (← store.decode row.1 row.2).latest? : Action (Option α)).Does t (.ok (some x)) t ∧
        (Series.listed (s? row.1)).head? = some x := by
    rintro ⟨key, payload⟩ hmem
    have hget := Storage.Table.mem_rows_iff.1 hmem
    have hshows := h key
    cases hs : s? key with
    | none =>
      rw [hs] at hshows
      cases hget.symm.trans hshows
    | some s =>
      rw [hs] at hshows
      obtain ⟨payload', hget', hstored⟩ := hshows
      cases hget.symm.trans hget'
      have hne : s.newestFirst ≠ [] := fun hnil =>
        hfilled key s hs (List.reverse_eq_nil_iff.1 hnil)
      obtain ⟨x, hx⟩ := Option.isSome_iff_exists.1 (List.isSome_head?.2 hne)
      refine ⟨x, (does_decode hstored.ofStored).bind ?_, hx⟩
      rw [s.latest?_eq_head?, hx]
      exact Action.does_pure _ t
  obtain ⟨latest, hlatest⟩ := exists_forall₂ hrow
  refine ⟨(t.table store.table).rows.map Prod.fst, latest, ?_,
    List.pairwise_map.2 (t.table store.table).sorted, fun key => ?_, ?_⟩
  · have hall := Action.does_mapM
      ((List.forall₂_map_right_iff (f := some)).2 (hlatest.imp fun _ _ hx => hx.1))
    refine (Storage.History.does_loadAll store.table t).bind (hall.bind ?_)
    rw [List.filterMap_map, Function.id_comp, List.filterMap_some]
    exact Action.does_pure _ t
  · rw [Storage.Table.mem_keys_iff, ne_eq, (h key).row_eq_none_iff (hfilled key)]
  · exact List.forall₂_map_left_iff.2 (hlatest.imp fun _ _ hx => hx.2)

end Store

end MetricLedger
