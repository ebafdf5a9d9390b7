/-!
# Bounded histories

A history stands in ascending order of time and has one item for each time. It grows to its
capacity; from then on each new time costs the oldest one. Only additions are counted against the
capacity, so a history that was longer from the start stays as long as it is.
-/

namespace MetricLedger

/-- What stands in a history at a time. -/
class Timed (α : Type) where
  time : α → Int

export Timed (time)

inductive Outcome where
  | inserted
  | replaced
  | evictedOldest
  | dropped
deriving DecidableEq, Repr, Inhabited

def Outcome.label : Outcome → String
  | inserted => "inserted"
  | replaced => "replaced"
  | evictedOldest => "evicted_oldest"
  | dropped => "dropped"

theorem insertIdx_length_append {α : Type} (before later : List α) (x : α) :
    (before ++ later).insertIdx before.length x = before ++ x :: later := by
  induction before with
  | nil => rfl
  | cons y before ih =>
    rw [List.cons_append, List.length_cons, List.insertIdx_succ_cons, ih, List.cons_append]

section
variable {α : Type} [Timed α]

abbrev Ascending (items : List α) : Prop := items.Pairwise fun x y => time x < time y

/-- How many items stand before a time, found by halving. -/
def position (t : Int) (items : List α) : Nat :=
  -- a half that is left is a list by itself, and its positions count from its own front
  match h : items[items.length / 2]? with
  | none => 0
  | some y =>
    have := (List.getElem?_eq_some_iff.1 h).1
    if time y < t then
      items.length / 2 + 1 + position t (items.drop (items.length / 2 + 1))
    else position t (items.take (items.length / 2))
termination_by items.length
decreasing_by
  · rw [List.length_drop]
    omega
  · rw [List.length_take]
    omega

theorem Ascending.around {items : List α} (h : Ascending items) {i : Nat} {y : α}
    (hy : items[i]? = some y) :
    (∀ z ∈ items.take i, time z < time y) ∧ ∀ z ∈ items.drop (i + 1), time y < time z := by
  obtain ⟨hi, rfl⟩ := List.getElem?_eq_some_iff.1 hy
  rw [← List.take_append_drop i items, List.drop_eq_getElem_cons hi] at h
  have ⟨_, hback, hcross⟩ := List.pairwise_append.1 h
  exact ⟨fun z hz => hcross z hz _ List.mem_cons_self, (List.pairwise_cons.1 hback).1⟩

/-- All items in front of the position are before the time, and none of the others is. -/
theorem exists_position (t : Int) {items : List α} (h : Ascending items) :
    ∃ before later, items = before ++ later ∧ before.length = position t items ∧
      (∀ y ∈ before, time y < t) ∧ ∀ z ∈ later, t ≤ time z := by
  fun_induction position t items with
  | case1 items hnone =>
    have hlength := List.getElem?_eq_none_iff.1 hnone
    obtain rfl : items = [] := List.eq_nil_of_length_eq_zero (by omega)
    exact ⟨[], [], rfl, rfl, nofun, nofun⟩
  | case2 items y hy hlt hyt ih =>
    obtain ⟨before, later, hsplit, hlength, hbefore, hlater⟩ :=
      ih (h.sublist (List.drop_sublist _ _))
    refine ⟨items.take (items.length / 2 + 1) ++ before, later, ?_, ?_, ?_, hlater⟩
    · rw [List.append_assoc, ← hsplit, List.take_append_drop]
    · rw [List.length_append, List.length_take, hlength]
      omega
    · intro z hz
      rw [List.take_add_one, hy] at hz
      rcases List.mem_append.1 hz with hz | hz
      · rcases List.mem_append.1 hz with hz | hz
        · have := (h.around hy).1 z hz
          omega
        · rwa [List.mem_singleton.1 hz]
      · exact hbefore z hz
  | case3 items y hy hlt hyt ih =>
    obtain ⟨before, later, hsplit, hlength, hbefore, hlater⟩ :=
      ih (h.sublist (List.take_sublist _ _))
    refine ⟨before, later ++ items.drop (items.length / 2), ?_, hlength, hbefore, ?_⟩
    · rw [← List.append_assoc, ← hsplit, List.take_append_drop]
    · intro z hz
      rcases List.mem_append.1 hz with hz | hz
      · exact hlater z hz
      · obtain ⟨hmiddle, rfl⟩ := List.getElem?_eq_some_iff.1 hy
        rw [List.drop_eq_getElem_cons hmiddle] at hz
        rcases List.mem_cons.1 hz with rfl | hz
        · omega
        · have := (h.around hy).2 z hz
          omega

theorem ascending_set {items : List α} (h : Ascending items) {i : Nat} {x : α}
    (hx : items[i]?.map time = some (time x)) : Ascending (items.set i x) := by
  obtain ⟨y, hy, hyx⟩ := Option.map_eq_some_iff.1 hx
  -- the times are the same ones
  have htimes : (items.set i x).map time = items.map time := by
    obtain ⟨hi, rfl⟩ := List.getElem?_eq_some_iff.1 hy
    rw [List.map_set, ← hyx, ← List.getElem_map time (h := by rwa [List.length_map])]
    exact List.set_getElem_self _
  have hmap := List.pairwise_map.2 h
  rw [← htimes] at hmap
  exact List.pairwise_map.1 hmap

theorem ascending_insertIdx {items : List α} (h : Ascending items) {x : α}
    (hx : items[position (time x) items]?.map time ≠ some (time x)) :
    Ascending (items.insertIdx (position (time x) items) x) := by
  obtain ⟨before, later, hsplit, hlength, hbefore, hlater⟩ := exists_position (time x) h
  rw [← hlength, hsplit] at hx ⊢
  rw [insertIdx_length_append]
  rw [hsplit] at h
  have ⟨hfront, hback, hcross⟩ := List.pairwise_append.1 h
  have hafter : ∀ z ∈ later, time x < time z := by
    cases later with
    | nil => nofun
    | cons y rest =>
      have hle := hlater y List.mem_cons_self
      have hne : time y ≠ time x := by simpa using hx
      refine List.forall_mem_cons.2 ⟨by omega, fun z hz => ?_⟩
      have := (List.pairwise_cons.1 hback).1 z hz
      omega
  refine List.pairwise_append.2 ⟨hfront, List.pairwise_cons.2 ⟨hafter, hback⟩, fun y hy z hz => ?_⟩
  rcases List.mem_cons.1 hz with rfl | hz
  · exact hbefore y hy
  · exact hcross y hy z hz

end

structure Series (α : Type) [Timed α] where
  capacity : Int
  items : List α
  ascending : Ascending items

namespace Series

variable {α : Type} [Timed α]

def empty (capacity : Int) : Series α := ⟨capacity, [], .nil⟩

def size (s : Series α) : Nat := s.items.length

def dropOldest (s : Series α) : Series α :=
  { s with items := s.items.drop 1, ascending := s.ascending.sublist (List.drop_sublist _ _) }

/-- Adds an item, in the place of the item of its time if there is one. Otherwise it goes where its
time stands, and if the history is now longer than its capacity, the front item goes, which may be
the new one itself. -/
def add (s : Series α) (x : α) : Series α × Outcome :=
  let index := position (time x) s.items
  if h : s.items[index]?.map time = some (time x) then
    ({ s with items := s.items.set index x, ascending := ascending_set s.ascending h }, .replaced)
  else
    let grown : Series α :=
      { s with items := s.items.insertIdx index x, ascending := ascending_insertIdx s.ascending h }
    if s.capacity < grown.size then
      (grown.dropOldest, if index = 0 then .dropped else .evictedOldest)
    else (grown, .inserted)

def latest? (s : Series α) : Option α := s.items.getLast?

def newestFirst (s : Series α) : List α := s.items.reverse

def newest (s : Series α) (n : Int) : List α := s.newestFirst.take n.toNat

def summary (s : Series α) : String :=
  s!"BoundedTimeSeries(capacity={s.capacity}, len={s.size})"

theorem capacity_add (s : Series α) (x : α) : (s.add x).1.capacity = s.capacity := by
  dsimp only [add]
  split
  · rfl
  · split <;> rfl

end Series

end MetricLedger
