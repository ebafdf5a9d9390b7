import Mathlib.Data.List.FinRange
import MetricLedger.Proofs.Stored.Histories

/-!
# Histories of reordered entries

Where two elements of a list may not change places, neither may those of a set in which any two may
not. So a history is the same for every order of its entries that keeps those of one time in theirs.
-/

namespace MetricLedger

/-- The second list has the elements of the first one, and of two that collide the same one comes
first. -/
def Reorders {β : Type} (collide : β → β → Prop) (xs ys : List β) : Prop :=
  ∃ place : Fin xs.length ≃ Fin ys.length, (∀ i, ys[place i] = xs[i]) ∧
    ∀ i j, i < j → collide xs[i] xs[j] → place i < place j

section
variable {β : Type} {collide : β → β → Prop} {xs ys : List β}

theorem reorders_pair {x y : β} (h : ¬collide x y) : Reorders collide [x, y] [y, x] := by
  refine ⟨Fin.revPerm, fun i => ?_, fun i j hij hcollide => ?_⟩
  · match i with
    | 0 => rfl
    | 1 => rfl
  · match i, j with
    | 0, 1 => exact absurd hcollide h
    | 0, 0 => exact absurd hij (lt_irrefl _)
    | 1, 1 => exact absurd hij (lt_irrefl _)
    | 1, 0 => exact absurd hij (Nat.not_lt_zero _)

theorem filter_eq_map_get (xs : List β) (p : β → Bool) :
    xs.filter p = ((List.finRange xs.length).filter fun i => p xs[i]).map xs.get := by
  have hxs : xs = (List.finRange xs.length).map xs.get := by rw [← List.ofFn_eq_map, List.ofFn_get]
  conv_lhs => rw [hxs, List.filter_map]
  rfl

/-- Elements any two of which collide stay in their order. -/
theorem Reorders.filter_eq (h : Reorders collide xs ys) {p : β → Bool}
    (hp : ∀ x y, p x = true → p y = true → collide x y) : xs.filter p = ys.filter p := by
  obtain ⟨place, hsame, hkeeps⟩ := h
  rw [filter_eq_map_get xs, filter_eq_map_get ys]
  have hget : xs.get = ys.get ∘ place := funext fun i => (hsame i).symm
  rw [hget, ← List.map_map]
  congr 1
  -- both lists of places ascend, and they have the same members
  refine eq_of_pairwise_of_mem_iff (fun _ _ => lt_asymm) ?_
    ((List.pairwise_lt_finRange _).filter _) fun j => ?_
  · rw [List.pairwise_map]
    refine ((List.pairwise_lt_finRange _).filter _).imp_of_mem fun {i j} hi hj hij => ?_
    exact hkeeps i j hij (hp _ _ (List.mem_filter.1 hi).2 (List.mem_filter.1 hj).2)
  · simp only [List.mem_map, List.mem_filter, List.mem_finRange, true_and]
    constructor
    · rintro ⟨i, hi, rfl⟩
      rwa [hsame i]
    · intro hj
      refine ⟨place.symm j, ?_, place.apply_symm_apply j⟩
      rw [← hsame (place.symm j)]
      simpa only [place.apply_symm_apply] using hj

theorem Reorders.filterMap_filter_eq {γ : Type} (h : Reorders collide xs ys) {f : β → Option γ}
    {p : γ → Bool}
    (hp : ∀ x y u v, f x = some u → f y = some v → p u = true → p v = true → collide x y) :
    (xs.filterMap f).filter p = (ys.filterMap f).filter p := by
  have hfirst : ∀ zs : List β,
      (zs.filterMap f).filter p = (zs.filter fun z => (f z).any p).filterMap f := by
    intro zs
    rw [List.filter_filterMap, List.filterMap_filter]
    congr 1
    funext z
    cases f z <;> rfl
  rw [hfirst xs, hfirst ys, h.filter_eq fun x y hx hy => ?_]
  obtain ⟨u, hu, hpu⟩ := (Option.any_eq_true ..).1 hx
  obtain ⟨v, hv, hpv⟩ := (Option.any_eq_true ..).1 hy
  exact hp x y u v hu hv hpu hpv

end

section
variable {α : Type} [Timed α]

theorem mem_lastOfEachTime_iff_getLast? {items : List α} {x : α} :
    x ∈ lastOfEachTime items ↔ (items.filter (time · == time x)).getLast? = some x := by
  rw [mem_lastOfEachTime_iff]
  constructor
  · rintro ⟨before, later, rfl, hlater⟩
    have hnone : later.filter (time · == time x) = [] :=
      List.filter_eq_nil_iff.2 fun z hz => by simpa using hlater z hz
    rw [List.filter_append, List.filter_cons_of_pos (by simp), hnone, List.getLast?_concat]
  · intro hlast
    obtain ⟨before, hfilter⟩ := List.getLast?_eq_some_iff.1 hlast
    obtain ⟨old, recent, rfl, -, hrecent⟩ := List.filter_eq_append_iff.1 hfilter
    obtain ⟨between, later, rfl, -, -, hlater⟩ := List.filter_eq_cons_iff.1 hrecent
    refine ⟨old ++ between, later, by simp, fun z hz htime => ?_⟩
    exact List.filter_eq_nil_iff.1 hlater z hz (by simpa using htime)

/-- What is retained of items depends on the order of those of the same time only. -/
theorem retained_congr {items others : List α}
    (h : ∀ t, items.filter (time · == t) = others.filter (time · == t)) (n : Nat) :
    retained n items = retained n others := by
  have heq : byTime (lastOfEachTime items) = byTime (lastOfEachTime others) := by
    refine (ascending_byTime (pairwise_lastOfEachTime _)).eq_of_mem_iff
      (ascending_byTime (pairwise_lastOfEachTime _)) fun x => ?_
    rw [mem_byTime, mem_byTime, mem_lastOfEachTime_iff_getLast?, mem_lastOfEachTime_iff_getLast?,
      h]
  rw [retained, retained, heq]

theorem Series.addAll_congr {capacity : Int} {items others : List α}
    (h : ∀ t, items.filter (time · == t) = others.filter (time · == t)) :
    (Series.empty capacity).addAll items = (Series.empty capacity).addAll others := by
  have hcapacity := (capacity_addAll (Series.empty capacity) items).trans
    (capacity_addAll (Series.empty capacity) others).symm
  have hitems : ((Series.empty capacity).addAll items).items =
      ((Series.empty capacity).addAll others).items := by
    rw [items_addAll, items_addAll]
    exact retained_congr h _
  cases hs : (Series.empty capacity).addAll items
  cases hs' : (Series.empty capacity).addAll others
  rw [hs, hs'] at hcapacity hitems
  simp only [Series.mk.injEq]
  exact ⟨hcapacity, hitems⟩

/-- Further entries of one capacity make up the same history in any order that keeps those of each
time in theirs. -/
theorem historyOf_congr {capacity : Int} (entries : List (Int × α)) {more others : List (Int × α)}
    (hmore : ∀ entry ∈ more, entry.1 = capacity) (hothers : ∀ entry ∈ others, entry.1 = capacity)
    (h : ∀ t, more.filter (time ·.2 == t) = others.filter (time ·.2 == t)) :
    historyOf (entries ++ more) = historyOf (entries ++ others) := by
  have hitems : ∀ t, (more.map Prod.snd).filter (time · == t) =
      (others.map Prod.snd).filter (time · == t) := by
    intro t
    rw [List.filter_map, List.filter_map]
    exact congrArg (List.map Prod.snd) (h t)
  have hmem : ∀ entry, entry ∈ more ↔ entry ∈ others := by
    intro entry
    have hentry : ∀ list : List (Int × α),
        entry ∈ list ↔ entry ∈ list.filter (time ·.2 == time entry.2) := fun list => by simp
    rw [hentry more, hentry others, h]
  cases entries with
  | cons entry rest =>
    obtain ⟨first, x⟩ := entry
    simp only [List.cons_append, historyOf, List.map_append]
    refine congrArg some (Series.addAll_congr fun t => ?_)
    rw [← List.cons_append, ← List.cons_append, List.filter_append, List.filter_append, hitems]
  | nil =>
    cases more with
    | nil =>
      have hnil : others = [] := List.eq_nil_iff_forall_not_mem.2 fun entry hentry =>
        List.not_mem_nil ((hmem entry).2 hentry)
      rw [hnil]
    | cons entry rest =>
      cases others with
      | nil => exact absurd ((hmem entry).1 List.mem_cons_self) List.not_mem_nil
      | cons other rest' =>
        obtain ⟨c, x⟩ := entry
        obtain ⟨c', y⟩ := other
        cases hmore _ List.mem_cons_self
        cases hothers _ List.mem_cons_self
        exact congrArg some (Series.addAll_congr hitems)

end

end MetricLedger
