import MetricLedger.Proofs.Series.Retained

/-!
# Related histories

Histories of the same capacity whose items are related, and stand at the same times, remain so when
related items are added.
-/

namespace MetricLedger

open List (Forall₂)

theorem exists_of_mem_forall₂ {α β : Type} {R : α → β → Prop} {items : List α}
    {others : List β} (h : Forall₂ R items others) {x : α} (hx : x ∈ items) :
    ∃ y ∈ others, R x y := by
  induction h with
  | nil => cases hx
  | cons hzw _ ih =>
    rcases List.mem_cons.1 hx with rfl | hx
    · exact ⟨_, .head _, hzw⟩
    · obtain ⟨y, hy, hxy⟩ := ih hx
      exact ⟨y, .tail _ hy, hxy⟩

theorem exists_forall₂ {α β : Type} {R : α → β → Prop} {items : List α}
    (h : ∀ x ∈ items, ∃ y, R x y) : ∃ others, Forall₂ R items others := by
  induction items with
  | nil => exact ⟨[], .nil⟩
  | cons x rest ih =>
    obtain ⟨y, hxy⟩ := h x List.mem_cons_self
    obtain ⟨others, hothers⟩ := ih fun z hz => h z (List.mem_cons_of_mem _ hz)
    exact ⟨y :: others, .cons hxy hothers⟩

theorem forall₂_comp {α β γ : Type} {R : α → β → Prop} {S : β → γ → Prop} {xs : List α}
    {ys : List β} {zs : List γ} (h : Forall₂ R xs ys) (h' : Forall₂ S ys zs) :
    Forall₂ (fun x z => ∃ y, R x y ∧ S y z) xs zs := by
  induction h generalizing zs with
  | nil =>
    cases h'
    exact .nil
  | cons hxy _ ih =>
    cases h' with
    | cons hyz hrest => exact .cons ⟨_, hxy, hyz⟩ (ih hrest)

section
variable {α β : Type} [Timed α] [Timed β] {R : α → β → Prop}

theorem ascending_of_forall₂ (hR : ∀ x y, R x y → time x = time y) {items : List α}
    {others : List β} (h : Forall₂ R items others) (hitems : Ascending items) :
    Ascending others := by
  induction h with
  | nil => exact .nil
  | cons hxy hrest ih =>
    obtain ⟨hfirst, hitems⟩ := List.pairwise_cons.1 hitems
    refine List.pairwise_cons.2 ⟨fun y hy => ?_, ih hitems⟩
    obtain ⟨x, hx, hxy'⟩ := exists_of_mem_forall₂ hrest.flip hy
    rw [← hR _ _ hxy, ← hR _ _ hxy']
    exact hfirst x hx

theorem place_forall₂ (hR : ∀ x y, R x y → time x = time y) {items : List α} {others : List β}
    (h : Forall₂ R items others) {x : α} {y : β} (hxy : R x y) :
    Forall₂ R (place x items) (place y others) := by
  induction h with
  | nil => exact .cons hxy .nil
  | cons hzw hrest ih =>
    unfold place
    rw [hR _ _ hxy, hR _ _ hzw]
    split
    · exact .cons hzw ih
    · split
      · exact .cons hxy hrest
      · exact .cons hxy (.cons hzw hrest)

theorem any_time_forall₂ (hR : ∀ x y, R x y → time x = time y) {items : List α} {others : List β}
    (h : Forall₂ R items others) (p : Int → Bool) :
    (items.any fun x => p (time x)) = others.any fun y => p (time y) := by
  induction h with
  | nil => rfl
  | cons hzw _ ih => rw [List.any_cons, List.any_cons, ih, hR _ _ hzw]

end

namespace Series

variable {α β : Type} [Timed α] [Timed β]

structure Related (R : α → β → Prop) (s : Series α) (s' : Series β) : Prop where
  capacity : s.capacity = s'.capacity
  items : Forall₂ R s.items s'.items

theorem mem_add {s : Series α} {x z : α} (h : z ∈ (s.add x).1.items) : z = x ∨ z ∈ s.items := by
  rw [add_eq] at h
  split at h
  · exact mem_place h
  · split at h
    · exact mem_place h
    · exact mem_place (List.mem_of_mem_drop h)

variable {R : α → β → Prop} {s : Series α} {s' : Series β}

theorem related_getD {s? : Option (Series α)} {s'? : Option (Series β)}
    (h : Option.Rel (Related R) s? s'?) (capacity : Int) :
    Related R (s?.getD (empty capacity)) (s'?.getD (empty capacity)) := by
  cases h with
  | none => exact ⟨rfl, .nil⟩
  | some h => exact h

theorem Related.holds_eq (h : Related R s s') (hR : ∀ x y, R x y → time x = time y) (t : Int) :
    s.holds t = s'.holds t := any_time_forall₂ hR h.items (· == t)

theorem Related.shut (h : Related R s s') (hR : ∀ x y, R x y → time x = time y) {t : Int}
    (hshut : s'.Shut t) : s.Shut t := by
  obtain ⟨hfull, hlater⟩ := hshut
  refine ⟨?_, fun x hx => ?_⟩
  · rw [h.capacity, size, h.items.length_eq]
    exact hfull
  · obtain ⟨y, hy, hxy⟩ := exists_of_mem_forall₂ h.items hx
    rw [hR x y hxy]
    exact hlater y hy

theorem Related.add (h : Related R s s') (hR : ∀ x y, R x y → time x = time y) {x : α} {y : β}
    (hxy : R x y) : Related R (s.add x).1 (s'.add y).1 ∧ (s.add x).2 = (s'.add y).2 := by
  have hholds : s.holds (time x) = s'.holds (time y) := by rw [hR _ _ hxy, h.holds_eq hR]
  have holder : s.items.any (time · < time x) = s'.items.any (time · < time y) := by
    rw [hR _ _ hxy]
    exact any_time_forall₂ hR h.items (· < time y)
  have hplaced := place_forall₂ hR h.items hxy
  refine ⟨⟨by rw [capacity_add, capacity_add, h.capacity], ?_⟩, ?_⟩
  · rw [add_eq, add_eq]
    unfold size
    rw [hholds, h.items.length_eq, h.capacity]
    split
    · exact hplaced
    · split
      · exact hplaced
      · exact List.forall₂_drop 1 hplaced
  · rw [add_eq, add_eq]
    unfold size
    rw [hholds, h.items.length_eq, h.capacity, holder]
    split
    · rfl
    · split <;> rfl

end Series

end MetricLedger
