import Mathlib.Data.List.DropRight
import Mathlib.Data.List.Sort
import Mathlib.Order.Lattice
import MetricLedger.Proofs.Results
import MetricLedger.Proofs.Series.Places

/-!
# What a history retains

A history that items are added to one by one holds what a sort of all of them would give: of each
time the last item, in order, and of these as many of the greatest times as there is room for. A
time that was pushed out, or that never got in, stays out.
-/

namespace MetricLedger

section
variable {α : Type}

theorem length_rtake (n : Nat) (items : List α) : (items.rtake n).length = min n items.length := by
  rw [List.rtake, List.length_drop]
  omega

theorem rtake_append_of_length_eq {old recent : List α} {n : Nat} (h : recent.length = n) :
    (old ++ recent).rtake n = recent := by
  have : (old ++ recent).length - n = old.length := by rw [List.length_append]; omega
  rw [List.rtake, this, List.drop_left]

theorem rtake_of_length_le {items : List α} {n : Nat} (h : items.length ≤ n) :
    items.rtake n = items := by
  rw [List.rtake, Nat.sub_eq_zero_of_le h, List.drop_zero]

theorem take_append_rtake (n : Nat) (items : List α) :
    items.take (items.length - n) ++ items.rtake n = items :=
  List.take_append_drop _ _

end

section
variable {α : Type} [Timed α]

def lastOfEachTime : List α → List α
  | [] => []
  | x :: rest =>
    if rest.any (time · == time x) then lastOfEachTime rest else x :: lastOfEachTime rest

def byTime (items : List α) : List α := items.mergeSort fun x y => time x ≤ time y

/-- Of the items of each time the last one, and of these the `n` with the greatest times. -/
def retained (n : Nat) (items : List α) : List α := (byTime (lastOfEachTime items)).rtake n

/-! ## The last item of each time -/

theorem lastOfEachTime_concat (items : List α) (x : α) :
    lastOfEachTime (items ++ [x]) = (lastOfEachTime items).filter (time · ≠ time x) ++ [x] := by
  induction items with
  | nil => simp [lastOfEachTime]
  | cons y rest ih =>
    simp only [List.cons_append, lastOfEachTime, List.any_append, ih]
    by_cases hx : time x = time y
    · by_cases hr : rest.any (time · == time y) <;> simp [hx, hr]
    · by_cases hr : rest.any (time · == time y) <;> simp [hx, hr, Ne.symm hx]

theorem mem_of_mem_lastOfEachTime {x : α} {items : List α} (h : x ∈ lastOfEachTime items) :
    x ∈ items := by
  induction items with
  | nil => exact h
  | cons y rest ih =>
    simp only [lastOfEachTime] at h
    split at h
    · exact List.mem_cons_of_mem _ (ih h)
    · rcases List.mem_cons.1 h with rfl | h
      · exact List.mem_cons_self
      · exact List.mem_cons_of_mem _ (ih h)

theorem pairwise_lastOfEachTime (items : List α) :
    (lastOfEachTime items).Pairwise fun x y => time x ≠ time y := by
  induction items with
  | nil => exact .nil
  | cons x rest ih =>
    simp only [lastOfEachTime]
    split
    · exact ih
    · rename_i hx
      refine List.pairwise_cons.2 ⟨fun y hy hxy => hx ?_, ih⟩
      exact List.any_eq_true.2 ⟨y, mem_of_mem_lastOfEachTime hy, by simp [hxy]⟩

theorem time_mem_lastOfEachTime {t : Int} {items : List α} :
    (∃ x ∈ lastOfEachTime items, time x = t) ↔ ∃ x ∈ items, time x = t := by
  induction items with
  | nil => simp [lastOfEachTime]
  | cons y rest ih =>
    simp only [lastOfEachTime]
    split
    · rename_i hy
      rw [ih]
      obtain ⟨z, hz, hzy⟩ := List.any_eq_true.1 hy
      constructor
      · rintro ⟨x, hx, rfl⟩
        exact ⟨x, List.mem_cons_of_mem _ hx, rfl⟩
      · rintro ⟨x, hx, rfl⟩
        rcases List.mem_cons.1 hx with rfl | hx
        · exact ⟨z, hz, by simpa using hzy⟩
        · exact ⟨x, hx, rfl⟩
    · simp only [List.mem_cons, exists_eq_or_imp, ih]

/-- Who is left of a time is who came last. -/
theorem eq_of_mem_lastOfEachTime {items later : List α} {x y : α}
    (hlater : ∀ z ∈ later, time z ≠ time x) (hy : y ∈ lastOfEachTime (items ++ x :: later))
    (hxy : time y = time x) : y = x := by
  induction items with
  | nil =>
    have hx : ¬later.any (time · == time x) = true := by simpa using hlater
    simp only [List.nil_append, lastOfEachTime, if_neg hx] at hy
    rcases List.mem_cons.1 hy with rfl | hy
    · rfl
    · exact absurd hxy (hlater y (mem_of_mem_lastOfEachTime hy))
  | cons z items ih =>
    simp only [List.cons_append, lastOfEachTime] at hy
    split at hy
    · exact ih hy
    · rename_i hz
      rcases List.mem_cons.1 hy with rfl | hy
      · exact absurd (List.any_eq_true.2 ⟨x, by simp, by simp [hxy]⟩) hz
      · exact ih hy

theorem mem_lastOfEachTime_iff {items : List α} {x : α} :
    x ∈ lastOfEachTime items ↔
      ∃ before later, items = before ++ x :: later ∧ ∀ z ∈ later, time z ≠ time x := by
  induction items with
  | nil => simp [lastOfEachTime]
  | cons y rest ih =>
    simp only [lastOfEachTime]
    constructor
    · intro hx
      split at hx
      · obtain ⟨before, later, rfl, hlater⟩ := ih.1 hx
        exact ⟨y :: before, later, rfl, hlater⟩
      · rename_i hy
        rcases List.mem_cons.1 hx with rfl | hx
        · exact ⟨[], rest, rfl, by simpa using hy⟩
        · obtain ⟨before, later, rfl, hlater⟩ := ih.1 hx
          exact ⟨y :: before, later, rfl, hlater⟩
    · rintro ⟨before, later, heq, hlater⟩
      cases before with
      | nil =>
        obtain ⟨rfl, rfl⟩ := List.cons.inj heq
        rw [if_neg (by simpa using hlater)]
        exact List.mem_cons_self
      | cons z before =>
        obtain ⟨rfl, rfl⟩ := List.cons.inj heq
        have hx := ih.2 ⟨before, later, rfl, hlater⟩
        split
        · exact hx
        · exact List.mem_cons_of_mem _ hx

theorem mem_lastOfEachTime_filterMap {β : Type} {f : β → Option α} {posts : List β} {x : α} :
    x ∈ lastOfEachTime (posts.filterMap f) ↔
      ∃ before post after, posts = before ++ post :: after ∧ f post = some x ∧
        ∀ later ∈ after, ∀ z, f later = some z → time z ≠ time x := by
  rw [mem_lastOfEachTime_iff]
  constructor
  · rintro ⟨old, recent, heq, hrecent⟩
    obtain ⟨before, rest, rfl, -, hrest⟩ := List.filterMap_eq_append_iff.1 heq
    obtain ⟨skipped, post, after, rfl, -, hpost, hafter⟩ := List.filterMap_eq_cons_iff.1 hrest
    refine ⟨before ++ skipped, post, after, by rw [List.append_assoc], hpost, ?_⟩
    intro later hlater z hz
    refine hrecent z ?_
    rw [← hafter]
    exact List.mem_filterMap.2 ⟨later, hlater, hz⟩
  · rintro ⟨before, post, after, rfl, hpost, hafter⟩
    refine ⟨before.filterMap f, after.filterMap f, ?_, fun z hz => ?_⟩
    · rw [List.filterMap_append, List.filterMap_cons_some hpost]
    · obtain ⟨later, hlater, hz⟩ := List.mem_filterMap.1 hz
      exact hafter later hlater z hz

/-! ## Ascending lists -/

theorem Ascending.eq_of_mem_iff {items others : List α} (h : Ascending items)
    (h' : Ascending others) (hmem : ∀ z, z ∈ items ↔ z ∈ others) : items = others :=
  eq_of_pairwise_of_mem_iff (fun _ _ => Int.lt_asymm) h h' hmem

theorem ascending_byTime {items : List α} (h : items.Pairwise fun x y => time x ≠ time y) :
    Ascending (byTime items) := by
  have hle : (byTime items).Pairwise fun x y => decide (time x ≤ time y) = true :=
    List.pairwise_mergeSort (fun x y z hxy hyz => by simp only [decide_eq_true_eq] at *; omega)
      (fun x y => by simp only [Bool.or_eq_true, decide_eq_true_eq]; omega) items
  have hne : (byTime items).Pairwise fun x y => time x ≠ time y :=
    (List.mergeSort_perm items _).symm.pairwise h fun hxy => hxy.symm
  refine (hle.and hne).imp fun {x y} hxy => ?_
  have hle := of_decide_eq_true hxy.1
  have hne := hxy.2
  omega

theorem mem_byTime {x : α} {items : List α} : x ∈ byTime items ↔ x ∈ items :=
  (List.mergeSort_perm items _).mem_iff

theorem mem_place_iff {x z : α} {items : List α} (h : Ascending items) :
    z ∈ place x items ↔ z = x ∨ z ∈ items ∧ time z ≠ time x := by
  induction items with
  | nil => simp [place]
  | cons y rest ih =>
    obtain ⟨hy, hr⟩ := List.pairwise_cons.1 h
    unfold place
    split
    · rename_i hyx
      simp only [List.mem_cons, ih hr]
      constructor
      · rintro (rfl | rfl | ⟨hz, hzx⟩)
        · exact .inr ⟨.inl rfl, by omega⟩
        · exact .inl rfl
        · exact .inr ⟨.inr hz, hzx⟩
      · rintro (rfl | ⟨rfl | hz, hzx⟩)
        · exact .inr (.inl rfl)
        · exact .inl rfl
        · exact .inr (.inr ⟨hz, hzx⟩)
    · split
      · rename_i hyx
        have hrest : ∀ z ∈ rest, time z ≠ time x := fun z hz => by have := hy z hz; omega
        simp only [List.mem_cons]
        constructor
        · rintro (rfl | hz)
          · exact .inl rfl
          · exact .inr ⟨.inr hz, hrest z hz⟩
        · rintro (rfl | ⟨rfl | hz, hzx⟩)
          · exact .inl rfl
          · exact absurd hyx hzx
          · exact .inr hz
      · have hall : ∀ z ∈ y :: rest, time z ≠ time x := fun z hz => by
          rcases List.mem_cons.1 hz with rfl | hz
          · omega
          · have := hy z hz
            omega
        rw [List.mem_cons]
        exact or_congr_right ⟨fun hz => ⟨hz, hall z hz⟩, And.left⟩

/-- One more item to sort is one more item put in its place. -/
theorem byTime_lastOfEachTime_concat (items : List α) (x : α) :
    byTime (lastOfEachTime (items ++ [x])) = place x (byTime (lastOfEachTime items)) := by
  have hasc : ∀ l : List α, Ascending (byTime (lastOfEachTime l)) := fun l =>
    ascending_byTime (pairwise_lastOfEachTime l)
  refine (hasc _).eq_of_mem_iff (ascending_place (hasc items) x) fun z => ?_
  rw [mem_place_iff (hasc items), mem_byTime, mem_byTime, lastOfEachTime_concat]
  simp [or_comm]

theorem byTime_lastOfEachTime_of_ascending {items : List α} (h : Ascending items) :
    byTime (lastOfEachTime items) = items := by
  refine (ascending_byTime (pairwise_lastOfEachTime _)).eq_of_mem_iff h fun z => ?_
  rw [mem_byTime]
  refine ⟨mem_of_mem_lastOfEachTime, fun hz => ?_⟩
  obtain ⟨before, later, rfl⟩ := List.append_of_mem hz
  have hlater : ∀ y ∈ later, time y ≠ time z := fun y hy => by
    have := (List.pairwise_cons.1 (List.pairwise_append.1 h).2.1).1 y hy
    omega
  obtain ⟨y, hy, hyz⟩ := time_mem_lastOfEachTime.2 ⟨z, hz, rfl⟩
  obtain rfl := eq_of_mem_lastOfEachTime hlater hy hyz
  exact hy

/-! ## Placing into a part of a list -/

theorem length_place {items : List α} (h : Ascending items) (x : α) :
    (place x items).length = items.length + if items.any (time · == time x) then 0 else 1 := by
  induction items with
  | nil => simp [place]
  | cons y rest ih =>
    obtain ⟨hy, hr⟩ := List.pairwise_cons.1 h
    unfold place
    split
    · rename_i hyx
      have hne : (time y == time x) = false := beq_eq_false_iff_ne.2 (by omega)
      rw [List.length_cons, ih hr, List.length_cons, List.any_cons, hne, Bool.false_or]
      omega
    · split
      · rename_i hyx
        simp [hyx]
      · have hnone : (y :: rest).any (time · == time x) = false := by
          rw [List.any_eq_false]
          intro z hz hzx
          have hzx : time z = time x := by simpa using hzx
          rcases List.mem_cons.1 hz with rfl | hz
          · omega
          · have := hy z hz
            omega
        rw [hnone]
        simp

theorem place_append_of_le {old recent : List α} {x y : α} (hy : y ∈ old)
    (hxy : time x ≤ time y) : place x (old ++ recent) = place x old ++ recent := by
  induction old with
  | nil => cases hy
  | cons z old ih =>
    rw [List.cons_append, place, place]
    split
    · rename_i hz
      rcases List.mem_cons.1 hy with rfl | hy
      · omega
      · rw [ih hy, List.cons_append]
    · split <;> rfl

/-! ## The greatest times of a list -/

/-- The window over a list after an item was placed in it, from the window before. -/
theorem rtake_place {all : List α} (h : Ascending all) (n : Nat) (x : α) :
    (place x all).rtake n =
      if (all.rtake n).any (time · == time x) ∨ (all.rtake n).length < n then
        place x (all.rtake n)
      else (place x (all.rtake n)).drop 1 := by
  have hsplit := take_append_rtake n all
  have hlen := length_rtake n all
  generalize hold : all.take (all.length - n) = old at hsplit
  generalize all.rtake n = recent at hsplit hlen ⊢
  have hasc : Ascending (old ++ recent) := by rw [hsplit]; exact h
  have ⟨_, hrecent, hcross⟩ := List.pairwise_append.1 hasc
  have hplace := length_place hrecent x
  -- a window with room left is the whole list
  have hnil : recent.length < n → old = [] := fun hlt => by
    rw [← hold, List.take_eq_nil_iff]
    omega
  rw [← hsplit]
  by_cases hany : recent.any (time · == time x) = true
  · rw [if_pos (.inl hany)]
    obtain ⟨z, hz, hzx⟩ := List.any_eq_true.1 hany
    have hzx : time z = time x := by simpa using hzx
    rw [place_append_of_lt fun y hy => hzx ▸ hcross y hy z hz]
    rw [if_pos hany, Nat.add_zero] at hplace
    by_cases hlt : recent.length < n
    · rw [hnil hlt, List.nil_append, rtake_of_length_le (by omega)]
    · exact rtake_append_of_length_eq (by omega)
  · rw [if_neg hany] at hplace
    by_cases hlt : recent.length < n
    · rw [if_pos (.inr hlt), hnil hlt, List.nil_append, rtake_of_length_le (by omega)]
    · rw [if_neg (by simp [hany, hlt])]
      by_cases hle : ∃ y ∈ old, time x ≤ time y
      · obtain ⟨y, hy, hxy⟩ := hle
        have hfront : place x recent = x :: recent :=
          place_of_lt fun z hz => by have := hcross y hy z hz; omega
        rw [place_append_of_le hy hxy, hfront, List.drop_one, List.tail_cons]
        exact rtake_append_of_length_eq (by omega)
      · rw [place_append_of_lt fun y hy => Int.lt_of_not_ge fun hxy => hle ⟨y, hy, hxy⟩]
        cases hp : place x recent with
        | nil => rw [hp] at hplace; simp at hplace
        | cons z rest =>
          rw [hp, List.length_cons] at hplace
          rw [List.drop_one, List.tail_cons, List.append_cons]
          exact rtake_append_of_length_eq (by omega)

end

namespace Series

variable {α : Type} [Timed α]

def addAll (s : Series α) (xs : List α) : Series α := xs.foldl (fun s x => (s.add x).1) s

def room (s : Series α) : Nat := (max s.capacity s.size).toNat

theorem addAll_append (s : Series α) (xs ys : List α) :
    s.addAll (xs ++ ys) = (s.addAll xs).addAll ys := List.foldl_append

theorem addAll_concat (s : Series α) (xs : List α) (x : α) :
    s.addAll (xs ++ [x]) = ((s.addAll xs).add x).1 := by
  rw [addAll_append]
  rfl

theorem items_add (s : Series α) (x : α) :
    (s.add x).1.items =
      if s.holds (time x) = true ∨ s.size < s.capacity then place x s.items
      else (place x s.items).drop 1 := by
  rw [add_eq]
  by_cases hx : s.holds (time x) = true
  · simp [hx, placed]
  · by_cases hlt : s.size < s.capacity <;> simp [hx, hlt, placed, dropOldest]

theorem items_add_of_room {s : Series α} {x : α}
    (h : (s.add x).2 = .inserted ∨ (s.add x).2 = .replaced) :
    (s.add x).1.items = place x s.items := by
  rw [items_add]
  refine if_pos ?_
  rw [add_eq] at h
  by_cases hx : s.holds (time x) = true
  · exact .inl hx
  · by_cases hlt : s.size < s.capacity
    · exact .inr hlt
    · rw [if_neg hx, if_neg hlt] at h
      dsimp only at h
      split at h <;> simp at h

theorem capacity_addAll (s : Series α) (xs : List α) : (s.addAll xs).capacity = s.capacity := by
  induction xs using List.reverseRecOn with
  | nil => rfl
  | append_singleton xs x ih => rw [addAll_concat, capacity_add, ih]

/-- If the items are the window over a list, they are so after the next item was added. -/
theorem items_add_of_rtake {s : Series α} {all : List α} {n : Nat} (hall : Ascending all)
    (hitems : s.items = all.rtake n) (hroom : s.size < s.capacity ↔ s.size < n) (x : α) :
    (s.add x).1.items = (place x all).rtake n := by
  rw [items_add, rtake_place hall, ← hitems]
  simp only [hroom]
  rfl

theorem size_le_length_place {items : List α} (h : Ascending items) (x : α) :
    items.length ≤ (place x items).length := by
  rw [length_place h]
  omega

theorem size_le_length_all (s : Series α) (xs : List α) :
    s.size ≤ (byTime (lastOfEachTime (s.items ++ xs))).length := by
  induction xs using List.reverseRecOn with
  | nil => rw [List.append_nil, byTime_lastOfEachTime_of_ascending s.ascending]; exact le_rfl
  | append_singleton xs x ih =>
    rw [← List.append_assoc, byTime_lastOfEachTime_concat]
    exact ih.trans (size_le_length_place (ascending_byTime (pairwise_lastOfEachTime _)) x)

theorem items_addAll (s : Series α) (xs : List α) :
    (s.addAll xs).items = retained s.room (s.items ++ xs) := by
  induction xs using List.reverseRecOn with
  | nil =>
    rw [List.append_nil, retained, byTime_lastOfEachTime_of_ascending s.ascending,
      rtake_of_length_le (show s.size ≤ s.room by unfold room; omega)]
    rfl
  | append_singleton xs x ih =>
    rw [addAll_concat, ← List.append_assoc, retained, byTime_lastOfEachTime_concat]
    refine items_add_of_rtake (ascending_byTime (pairwise_lastOfEachTime _)) ih ?_ x
    -- the room is the capacity, or the length from the start, which is never fallen below
    have hall := size_le_length_all s xs
    have hsize : (s.addAll xs).size =
        min s.room (byTime (lastOfEachTime (s.items ++ xs))).length := by
      rw [size, ih, retained, length_rtake]
    rw [capacity_addAll, hsize]
    unfold room
    omega

/-! ## Times that stay out -/

/-- A time that finds no room: the history is full and has later times only. -/
def Shut (s : Series α) (t : Int) : Prop := s.capacity ≤ s.size ∧ ∀ y ∈ s.items, t < time y

theorem length_place_of_not_holds {s : Series α} {x : α} (h : ¬s.holds (time x) = true) :
    (place x s.items).length = s.size + 1 := by
  rw [length_place s.ascending, if_neg (show ¬s.items.any _ = true from h)]
  rfl

theorem shut_add {s : Series α} {t : Int} (h : s.Shut t) (x : α) : (s.add x).1.Shut t := by
  obtain ⟨hfull, hlater⟩ := h
  have hadd := items_add s x
  refine ⟨?_, fun y hy => ?_⟩
  · rw [capacity_add, size, hadd]
    by_cases hx : s.holds (time x) = true
    · rw [if_pos (.inl hx)]
      have := size_le_length_place s.ascending x
      unfold size at hfull
      omega
    · rw [if_neg (by simp [hx]; omega), List.length_drop, length_place_of_not_holds hx]
      exact hfull
  · rw [hadd] at hy
    by_cases hx : s.holds (time x) = true
    · rw [if_pos (.inl hx)] at hy
      obtain ⟨z, hz, hzx⟩ := holds_iff.1 hx
      rcases mem_place hy with rfl | hy
      · rw [← hzx]
        exact hlater z hz
      · exact hlater y hy
    · rw [if_neg (by simp [hx]; omega)] at hy
      by_cases hlt : t < time x
      · rcases mem_place (List.mem_of_mem_drop hy) with rfl | hy
        · exact hlt
        · exact hlater y hy
      · rw [place_of_lt fun z hz => by have := hlater z hz; omega] at hy
        exact hlater y hy

theorem shut_addAll {s : Series α} {t : Int} (h : s.Shut t) (xs : List α) :
    (s.addAll xs).Shut t := by
  induction xs using List.reverseRecOn with
  | nil => exact h
  | append_singleton xs x ih =>
    rw [addAll_concat]
    exact shut_add ih x

theorem time_mem_drop_one {items : List α} (h : Ascending items) {t : Int}
    (ht : ∃ y ∈ items, time y = t) :
    (∃ y ∈ items.drop 1, time y = t) ∨ ∀ y ∈ items.drop 1, t < time y := by
  cases items with
  | nil => simp at ht
  | cons z rest =>
    obtain ⟨y, hy, rfl⟩ := ht
    rcases List.mem_cons.1 hy with rfl | hy
    · exact .inr (List.pairwise_cons.1 h).1
    · exact .inl ⟨y, hy, rfl⟩

theorem time_mem_place {items : List α} (h : Ascending items) {t : Int} {x : α}
    (ht : t = time x ∨ ∃ y ∈ items, time y = t) : ∃ y ∈ place x items, time y = t := by
  by_cases hx : t = time x
  · exact ⟨x, (mem_place_iff h).2 (.inl rfl), hx.symm⟩
  · obtain ⟨y, hy, rfl⟩ := ht.resolve_left hx
    exact ⟨y, (mem_place_iff h).2 (.inr ⟨hy, hx⟩), rfl⟩

/-- A time that is there or comes is there afterwards, or stays out from then on. -/
theorem holds_or_shut_add {s : Series α} {t : Int} {x : α} (h : t = time x ∨ s.holds t = true) :
    (s.add x).1.holds t = true ∨ (s.add x).1.Shut t := by
  rw [holds_iff] at h
  have hplaced := time_mem_place s.ascending h
  have hadd := items_add s x
  rw [holds_iff, hadd]
  by_cases hroom : s.holds (time x) = true ∨ s.size < s.capacity
  · rw [if_pos hroom]
    exact .inl hplaced
  · rw [if_neg hroom] at hadd ⊢
    refine (time_mem_drop_one (ascending_place s.ascending x) hplaced).imp_right fun hlater => ?_
    refine ⟨?_, by rw [hadd]; exact hlater⟩
    rw [capacity_add, size, hadd, List.length_drop,
      length_place_of_not_holds fun hx => hroom (.inl hx)]
    exact Int.not_lt.1 fun hlt => hroom (.inr hlt)

theorem holds_or_shut_addAll {s : Series α} {t : Int} {xs : List α}
    (h : ∃ y ∈ s.items ++ xs, time y = t) :
    (s.addAll xs).holds t = true ∨ (s.addAll xs).Shut t := by
  induction xs using List.reverseRecOn with
  | nil =>
    rw [List.append_nil] at h
    exact .inl (holds_iff.2 h)
  | append_singleton xs x ih =>
    rw [addAll_concat]
    by_cases hx : t = time x
    · exact holds_or_shut_add (.inl hx)
    · obtain ⟨y, hy, rfl⟩ := h
      rw [← List.append_assoc, List.mem_append, List.mem_singleton] at hy
      have hy : y ∈ s.items ++ xs := hy.resolve_right fun e => hx (by rw [e])
      rcases ih ⟨y, hy, rfl⟩ with hheld | hshut
      · exact holds_or_shut_add (.inr hheld)
      · exact .inr (shut_add hshut x)

theorem not_holds_of_shut {s : Series α} {t : Int} (h : s.Shut t) : ¬s.holds t = true := by
  rw [holds_iff]
  rintro ⟨y, hy, hyt⟩
  have := h.2 y hy
  omega

/-- **Adding one by one is sorting at the end.** What is left is the last item of each time, of the
greatest times there is room for. So the last item of a time counts, a time that was pushed out or
never got in does not come back, and the history outgrows its room at no time. -/
theorem addAll_retains (s : Series α) (xs : List α) :
    (s.addAll xs).items = retained (max s.capacity s.size).toNat (s.items ++ xs) ∧
    ((s.addAll xs).size : Int) ≤ max s.capacity s.size ∧
    (∀ earlier x later, xs = earlier ++ x :: later → (∀ z ∈ later, time z ≠ time x) →
      ∀ y ∈ (s.addAll xs).items, time y = time x → y = x) ∧
    (∀ earlier later, xs = earlier ++ later → ∀ y ∈ s.items ++ earlier,
      ¬(s.addAll earlier).holds (time y) = true → ¬(s.addAll xs).holds (time y) = true) := by
  have hitems := items_addAll s xs
  refine ⟨hitems, ?_, ?_, ?_⟩
  · have hsize : (s.addAll xs).size ≤ s.room := by
      rw [size, hitems, retained, length_rtake]
      omega
    unfold room at hsize
    omega
  · rintro earlier x later rfl hlater y hy hyx
    rw [hitems] at hy
    have hy := mem_byTime.1 (List.mem_of_mem_drop hy)
    rw [← List.append_assoc] at hy
    exact eq_of_mem_lastOfEachTime hlater hy hyx
  · rintro earlier later rfl y hy hout
    rw [addAll_append]
    have hshut := (holds_or_shut_addAll ⟨y, hy, rfl⟩).resolve_left hout
    exact not_holds_of_shut (shut_addAll hshut later)

end Series

end MetricLedger
