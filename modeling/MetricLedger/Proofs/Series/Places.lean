import MetricLedger.Series

/-!
# The place of an added item

What an addition makes of the items is one walk along them, up to the first item that is not before
the new one. So the times that are there tell how an addition ends, and the position by itself does
not count any more.
-/

namespace MetricLedger

section
variable {α : Type} [Timed α]

def place (x : α) : List α → List α
  | [] => [x]
  | y :: rest =>
    if time y < time x then y :: place x rest
    else if time y = time x then x :: rest
    else x :: y :: rest

theorem mem_place {x z : α} {items : List α} (h : z ∈ place x items) : z = x ∨ z ∈ items := by
  induction items with
  | nil => simp_all [place]
  | cons y rest ih =>
    unfold place at h
    split at h
    · rcases List.mem_cons.1 h with rfl | h
      · exact .inr List.mem_cons_self
      · exact (ih h).imp_right (List.mem_cons_of_mem _)
    · split at h
      · exact (List.mem_cons.1 h).imp_right (List.mem_cons_of_mem _)
      · exact List.mem_cons.1 h

theorem ascending_place {items : List α} (h : Ascending items) (x : α) :
    Ascending (place x items) := by
  induction items with
  | nil => simp [place]
  | cons y rest ih =>
    have ⟨hy, hr⟩ := List.pairwise_cons.1 h
    unfold place
    split
    · refine List.pairwise_cons.2 ⟨fun z hz => ?_, ih hr⟩
      rcases mem_place hz with rfl | hz
      · assumption
      · exact hy z hz
    · split
      · exact List.pairwise_cons.2 ⟨fun z hz => by have := hy z hz; omega, hr⟩
      · refine List.pairwise_cons.2 ⟨fun z hz => ?_, h⟩
        rcases List.mem_cons.1 hz with rfl | hz
        · omega
        · have := hy z hz
          omega

theorem place_append_of_lt {old recent : List α} {x : α} (h : ∀ y ∈ old, time y < time x) :
    place x (old ++ recent) = old ++ place x recent := by
  induction old with
  | nil => rfl
  | cons y old ih =>
    rw [List.cons_append, place, if_pos (h y List.mem_cons_self),
      ih fun z hz => h z (List.mem_cons_of_mem _ hz), List.cons_append]

theorem place_of_lt {items : List α} {x : α} (h : ∀ y ∈ items, time x < time y) :
    place x items = x :: items := by
  cases items with
  | nil => rfl
  | cons y rest =>
    have := h y List.mem_cons_self
    rw [place, if_neg (by omega), if_neg (by omega)]

/-! ## The position of a time -/

theorem position_le {items : List α} (h : Ascending items) (t : Int) :
    position t items ≤ items.length := by
  obtain ⟨before, later, hsplit, hlength, -, -⟩ := exists_position t h
  rw [← hlength, hsplit, List.length_append]
  exact Nat.le_add_right _ _

theorem position_eq_zero_iff {items : List α} (h : Ascending items) {t : Int} :
    position t items = 0 ↔ ¬∃ y ∈ items, time y < t := by
  obtain ⟨before, later, rfl, hlength, hbefore, hlater⟩ := exists_position t h
  rw [← hlength, List.length_eq_zero_iff]
  constructor
  · rintro rfl ⟨y, hy, hyt⟩
    have := hlater y hy
    omega
  · intro hnone
    refine List.eq_nil_iff_forall_not_mem.2 fun y hy => hnone ⟨y, ?_, hbefore y hy⟩
    exact List.mem_append_left _ hy

/-- An item of a time is at the position of the time. -/
theorem time_at_position_iff {items : List α} (h : Ascending items) {t : Int} :
    items[position t items]?.map time = some t ↔ ∃ y ∈ items, time y = t := by
  constructor
  · intro hat
    obtain ⟨y, hy, hyt⟩ := Option.map_eq_some_iff.1 hat
    exact ⟨y, List.mem_of_getElem? hy, hyt⟩
  · rintro ⟨y, hy, hyt⟩
    obtain ⟨before, later, hsplit, hlength, hbefore, hlater⟩ := exists_position t h
    rw [hsplit] at h hy
    rw [← hlength, hsplit, List.getElem?_append_right (Nat.le_refl _), Nat.sub_self]
    have hy : y ∈ later := (List.mem_append.1 hy).resolve_left fun hy => by
      have := hbefore y hy
      omega
    obtain _ | ⟨z, rest⟩ := later
    · cases hy
    · -- the first one that is not before the time cannot be after it
      have hzy : time z ≤ time y := by
        rcases List.mem_cons.1 hy with rfl | hy
        · exact Int.le_refl _
        · exact Int.le_of_lt ((List.pairwise_cons.1 (List.pairwise_append.1 h).2.1).1 y hy)
      have hzt : time z = t := by
        have := hlater z List.mem_cons_self
        omega
      rw [List.getElem?_cons_zero, Option.map_some, hzt]

theorem set_position {items : List α} (h : Ascending items) {x : α}
    (hx : items[position (time x) items]?.map time = some (time x)) :
    items.set (position (time x) items) x = place x items := by
  obtain ⟨before, later, hsplit, hlength, hbefore, -⟩ := exists_position (time x) h
  rw [← hlength, hsplit, List.getElem?_append_right (Nat.le_refl _), Nat.sub_self] at hx
  rw [← hlength, hsplit, List.set_append_right _ _ (Nat.le_refl _), Nat.sub_self,
    place_append_of_lt hbefore]
  cases later with
  | nil => simp at hx
  | cons y rest =>
    have hyx : time y = time x := by simpa using hx
    rw [List.set_cons_zero, place, if_neg (by omega), if_pos hyx]

theorem insertIdx_position {items : List α} (h : Ascending items) {x : α}
    (hx : ¬∃ y ∈ items, time y = time x) :
    items.insertIdx (position (time x) items) x = place x items := by
  obtain ⟨before, later, hsplit, hlength, hbefore, hlater⟩ := exists_position (time x) h
  rw [← hlength, hsplit, insertIdx_length_append, place_append_of_lt hbefore, place_of_lt]
  intro z hz
  have hle := hlater z hz
  have hne : time z ≠ time x := fun hzx =>
    hx ⟨z, hsplit ▸ List.mem_append_right _ hz, hzx⟩
  omega

end

namespace Series

variable {α : Type} [Timed α]

def holds (s : Series α) (t : Int) : Bool := s.items.any (time · == t)

def placed (s : Series α) (x : α) : Series α :=
  { s with items := place x s.items, ascending := ascending_place s.ascending x }

theorem holds_iff {s : Series α} {t : Int} : s.holds t = true ↔ ∃ x ∈ s.items, time x = t := by
  simp [holds]

theorem holds_iff_at_position {s : Series α} {t : Int} :
    s.holds t = true ↔ s.items[position t s.items]?.map time = some t :=
  holds_iff.trans (time_at_position_iff s.ascending).symm

/-- How an addition ends is told by the times that are there and by the length before. -/
theorem add_eq (s : Series α) (x : α) :
    s.add x =
      if s.holds (time x) then (s.placed x, .replaced)
      else if s.size < s.capacity then (s.placed x, .inserted)
      else
        ((s.placed x).dropOldest,
          if s.items.any (time · < time x) then .evictedOldest else .dropped) := by
  dsimp only [add]
  by_cases hx : s.items[position (time x) s.items]?.map time = some (time x)
  · have hset := set_position s.ascending hx
    rw [dif_pos hx, if_pos (holds_iff_at_position.2 hx)]
    simp only [hset]
    rfl
  · have hnone : ¬∃ y ∈ s.items, time y = time x := fun hy =>
      hx ((time_at_position_iff s.ascending).2 hy)
    have hinsert := insertIdx_position s.ascending hnone
    have hlength : (s.placed x).size = s.size + 1 := by
      show (place x s.items).length = _
      rw [← hinsert]
      exact List.length_insertIdx_of_le_length (position_le s.ascending _) x
    rw [dif_neg hx, if_neg fun hholds => hnone (holds_iff.1 hholds)]
    simp only [hinsert]
    show (if s.capacity < ((s.placed x).size : Int) then
        ((s.placed x).dropOldest,
          if position (time x) s.items = 0 then Outcome.dropped else .evictedOldest)
      else (s.placed x, .inserted)) = _
    by_cases hroom : s.size < s.capacity
    · rw [if_pos hroom, if_neg (by omega)]
    · rw [if_neg hroom, if_pos (by omega)]
      by_cases holder : ∃ y ∈ s.items, time y < time x
      · rw [if_neg fun hzero => (position_eq_zero_iff s.ascending).1 hzero holder,
          if_pos (by simpa using holder)]
      · rw [if_pos ((position_eq_zero_iff s.ascending).2 holder), if_neg (by simpa using holder)]

end Series

end MetricLedger
