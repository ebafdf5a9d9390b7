import MetricLedger.Proofs.Series.Retained

/-!
# What became of an added item

The outcome of an addition says which of four things was due, and what the items are afterwards.
A history grows by the items that were inserted, and by no others, also where it was longer than
its capacity or has none.
-/

namespace MetricLedger

section
variable {α : Type} [Timed α]

/-- The item was put between the earlier and the later ones, which are as they were. -/
def Inserts (x : α) (items after : List α) : Prop :=
  ∃ before later, items = before ++ later ∧ after = before ++ x :: later ∧
    (∀ y ∈ before, time y < time x) ∧ ∀ z ∈ later, time x < time z

def Replaces (x : α) (items after : List α) : Prop :=
  ∃ before y later, items = before ++ y :: later ∧ after = before ++ x :: later ∧ time y = time x

/-- What an addition makes of the items. -/
def Outcome.Makes (x : α) (items after : List α) : Outcome → Prop
  | replaced => Replaces x items after
  | inserted => Inserts x items after
  | evictedOldest => ∃ oldest rest, items = oldest :: rest ∧ (∀ y ∈ rest, time oldest < time y) ∧
      Inserts x rest after
  | dropped => after = items

theorem replaces_place {items : List α} (h : Ascending items) {x y : α} (hy : y ∈ items)
    (hyx : time y = time x) : Replaces x items (place x items) := by
  obtain ⟨before, later, rfl⟩ := List.append_of_mem hy
  have hbefore : ∀ z ∈ before, time z < time x := fun z hz =>
    hyx ▸ (List.pairwise_append.1 h).2.2 z hz y List.mem_cons_self
  refine ⟨before, y, later, rfl, ?_, hyx⟩
  rw [place_append_of_lt hbefore, place, if_neg (by omega), if_pos hyx]

theorem inserts_place {items : List α} (h : Ascending items) {x : α}
    (hx : ∀ y ∈ items, time y ≠ time x) : Inserts x items (place x items) := by
  induction items with
  | nil => exact ⟨[], [], rfl, rfl, nofun, nofun⟩
  | cons y rest ih =>
    obtain ⟨hy, hrest⟩ := List.pairwise_cons.1 h
    by_cases hlt : time y < time x
    · obtain ⟨before, later, rfl, hplace, hbefore, hlater⟩ :=
        ih hrest fun z hz => hx z (List.mem_cons_of_mem _ hz)
      refine ⟨y :: before, later, rfl, ?_, List.forall_mem_cons.2 ⟨hlt, hbefore⟩, hlater⟩
      rw [place, if_pos hlt, hplace, List.cons_append]
    · have hne := hx y List.mem_cons_self
      have hlater : ∀ z ∈ y :: rest, time x < time z := by
        refine List.forall_mem_cons.2 ⟨by omega, fun z hz => ?_⟩
        have := hy z hz
        omega
      exact ⟨[], y :: rest, rfl, place_of_lt hlater, nofun, hlater⟩

/-- Where an earlier item stands, the oldest one goes and the new one stays. -/
theorem makes_drop_place_of_lt {items : List α} (h : Ascending items) {x y : α} (hy : y ∈ items)
    (hyx : time y < time x) (hx : ∀ z ∈ items, time z ≠ time x) :
    Outcome.evictedOldest.Makes x items ((place x items).drop 1) := by
  cases items with
  | nil => cases hy
  | cons oldest rest =>
    obtain ⟨holdest, hrest⟩ := List.pairwise_cons.1 h
    have hlt : time oldest < time x := by
      rcases List.mem_cons.1 hy with rfl | hy
      · exact hyx
      · have := holdest y hy
        omega
    rw [place, if_pos hlt, List.drop_one, List.tail_cons]
    exact ⟨oldest, rest, rfl, holdest,
      inserts_place hrest fun z hz => hx z (List.mem_cons_of_mem _ hz)⟩

/-- Where none stands, it is the new one that goes. -/
theorem drop_place_of_not_lt {items : List α} {x : α} (h : ¬∃ y ∈ items, time y < time x)
    (hx : ∀ z ∈ items, time z ≠ time x) : (place x items).drop 1 = items := by
  have hlater : ∀ z ∈ items, time x < time z := fun z hz => by
    have hne := hx z hz
    have hge : ¬time z < time x := fun hlt => h ⟨z, hz, hlt⟩
    omega
  rw [place_of_lt hlater, List.drop_one, List.tail_cons]

theorem Inserts.length {x : α} {items after : List α} (h : Inserts x items after) :
    after.length = items.length + 1 := by
  obtain ⟨before, later, rfl, rfl, -, -⟩ := h
  simp only [List.length_append, List.length_cons]
  omega

theorem Replaces.length {x : α} {items after : List α} (h : Replaces x items after) :
    after.length = items.length := by
  obtain ⟨before, y, later, rfl, rfl, -⟩ := h
  simp only [List.length_append, List.length_cons]

theorem Outcome.Makes.length {outcome : Outcome} {x : α} {items after : List α}
    (h : outcome.Makes x items after) :
    after.length = items.length + if outcome = inserted then 1 else 0 := by
  cases outcome with
  | replaced => exact Replaces.length h
  | inserted => exact Inserts.length h
  | evictedOldest =>
    obtain ⟨oldest, rest, rfl, -, hinserts⟩ := h
    exact hinserts.length
  | dropped => exact congrArg List.length h

end

namespace Series

variable {α : Type} [Timed α]

def Due (s : Series α) (t : Int) : Outcome → Prop
  | .replaced => ∃ y ∈ s.items, time y = t
  | .inserted => (∀ y ∈ s.items, time y ≠ t) ∧ s.size < s.capacity
  | .evictedOldest => (∀ y ∈ s.items, time y ≠ t) ∧ s.capacity ≤ s.size ∧ ∃ y ∈ s.items, time y < t
  | .dropped => (∀ y ∈ s.items, time y ≠ t) ∧ s.capacity ≤ s.size ∧ ¬∃ y ∈ s.items, time y < t

def outcomes (s : Series α) : List α → List Outcome
  | [] => []
  | x :: xs => (s.add x).2 :: (s.add x).1.outcomes xs

/-- At most one outcome is due. -/
theorem Due.unique {s : Series α} {t : Int} {outcome other : Outcome} (h : s.Due t outcome)
    (h' : s.Due t other) : outcome = other := by
  cases outcome <;> cases other <;> grind [Due]

theorem due_makes_add (s : Series α) (x : α) :
    s.Due (time x) (s.add x).2 ∧ (s.add x).2.Makes x s.items (s.add x).1.items := by
  rw [add_eq]
  by_cases hx : s.holds (time x) = true
  · rw [if_pos hx]
    obtain ⟨y, hy, hyx⟩ := holds_iff.1 hx
    exact ⟨⟨y, hy, hyx⟩, replaces_place s.ascending hy hyx⟩
  · rw [if_neg hx]
    have hnone : ∀ y ∈ s.items, time y ≠ time x := fun y hy hyx => hx (holds_iff.2 ⟨y, hy, hyx⟩)
    by_cases hroom : s.size < s.capacity
    · rw [if_pos hroom]
      exact ⟨⟨hnone, hroom⟩, inserts_place s.ascending hnone⟩
    · rw [if_neg hroom]
      have hfull : s.capacity ≤ s.size := by omega
      by_cases holder : ∃ y ∈ s.items, time y < time x
      · obtain ⟨y, hy, hyx⟩ := holder
        have hany : s.items.any (time · < time x) = true :=
          List.any_eq_true.2 ⟨y, hy, decide_eq_true hyx⟩
        rw [if_pos hany]
        exact ⟨⟨hnone, hfull, y, hy, hyx⟩, makes_drop_place_of_lt s.ascending hy hyx hnone⟩
      · have hany : ¬s.items.any (time · < time x) = true := by simpa using holder
        rw [if_neg hany]
        exact ⟨⟨hnone, hfull, holder⟩, drop_place_of_not_lt holder hnone⟩

theorem outcome_add_iff {s : Series α} {x : α} {outcome : Outcome} :
    (s.add x).2 = outcome ↔ s.Due (time x) outcome := by
  have hdue := (due_makes_add s x).1
  exact ⟨fun h => h ▸ hdue, hdue.unique⟩

theorem size_add (s : Series α) (x : α) :
    (s.add x).1.size = s.size + if (s.add x).2 = .inserted then 1 else 0 :=
  (due_makes_add s x).2.length

theorem size_addAll (s : Series α) (xs : List α) :
    (s.addAll xs).size = s.size + (s.outcomes xs).count .inserted := by
  induction xs generalizing s with
  | nil => rfl
  | cons x xs ih =>
    show ((s.add x).1.addAll xs).size = _
    rw [ih, size_add, outcomes, List.count_cons]
    simp only [beq_iff_eq]
    omega

/-- **The outcome of an addition tells what happened.** It is the one that is due, and with it the
items afterwards are those before with just this change. Whatever is added, the length grows by the
number of insertions. -/
theorem add_tells (s : Series α) :
    (∀ x, (∀ outcome, (s.add x).2 = outcome ↔ s.Due (time x) outcome) ∧
      (s.add x).2.Makes x s.items (s.add x).1.items ∧
      Ascending (s.add x).1.items ∧ (s.add x).1.capacity = s.capacity) ∧
    ∀ xs, (s.addAll xs).size = s.size + (s.outcomes xs).count .inserted := by
  refine ⟨fun x => ⟨fun outcome => outcome_add_iff, ?_, ?_, capacity_add s x⟩, size_addAll s⟩
  · exact (due_makes_add s x).2
  · exact (s.add x).1.ascending

end Series

end MetricLedger
