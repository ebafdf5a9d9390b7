import MetricLedger.Json.Value

/-!
# Sameness of values

What is the same as something that is the same as a third is the same as the third. Texts, absent
values and integers are the same only as themselves.
-/

namespace MetricLedger.Json.Value

theorem same_array_iff {items : List Value} {w : Value} :
    (array items).same w = true ↔ ∃ others, w = array others ∧ sameItems items others = true := by
  cases w <;> simp [same, sameNumber, units?]

theorem same_object_iff {members : List (String × Value)} {w : Value} :
    (object members).same w = true ↔ ∃ others, w = object others ∧
      members.length = others.length ∧ sameMembers members others = true := by
  cases w <;> simp [same, sameNumber, units?]

theorem sameNumber_trans {u v w : Value} (h : u.sameNumber v = true) (h' : v.sameNumber w = true) :
    u.sameNumber w = true := by
  simp only [sameNumber, Bool.and_eq_true, beq_iff_eq] at *
  exact ⟨h.1, h.2.trans h'.2⟩

theorem same_eq_of_units {v w : Value} (h : v.units?.isSome = true) :
    v.same w = (v == w || v.sameNumber w) := by
  cases v <;> simp_all [same, units?]

theorem same_trans_of_leaf {u v w : Value} (hu : u.same v = (u == v || u.sameNumber v))
    (hu' : u.same w = (u == w || u.sameNumber w)) (h : u.same v = true) (h' : v.same w = true) :
    u.same w = true := by
  rw [hu, Bool.or_eq_true, beq_iff_eq] at h
  rcases h with rfl | h
  · exact h'
  · have hunits : v.units?.isSome = true := by
      simp only [sameNumber, Bool.and_eq_true, beq_iff_eq] at h
      rw [← h.2]
      exact h.1
    rw [same_eq_of_units hunits, Bool.or_eq_true, beq_iff_eq] at h'
    rw [hu', Bool.or_eq_true]
    rcases h' with rfl | h'
    · exact .inr h
    · exact .inr (sameNumber_trans h h')

theorem mem_of_lookup {name : String} {value : Value} :
    ∀ {members : List (String × Value)}, members.lookup name = some value →
      (name, value) ∈ members
  | [], h => by cases h
  | (other, old) :: rest, h => by
    rw [List.lookup_cons] at h
    split at h
    · rename_i heq
      cases h
      rw [eq_of_beq heq]
      exact List.mem_cons_self
    · exact List.mem_cons_of_mem _ (mem_of_lookup h)

theorem lookup_of_sameMembers {name : String} {value : Value} :
    ∀ {members others : List (String × Value)}, sameMembers members others = true →
      (name, value) ∈ members → ∃ w, others.lookup name = some w ∧ value.same w = true
  | [], _, _, hmem => by cases hmem
  | (other, old) :: rest, others, h, hmem => by
    simp only [sameMembers, Bool.and_eq_true] at h
    rcases List.mem_cons.1 hmem with heq | hmem
    · obtain ⟨rfl, rfl⟩ := Prod.mk.inj heq
      cases hlookup : others.lookup name with
      | none => simp [hlookup] at h
      | some w => exact ⟨w, rfl, by simpa [hlookup] using h.1⟩
    · exact lookup_of_sameMembers h.2 hmem

mutual

theorem same_trans : (u : Value) → {v w : Value} → u.same v = true → v.same w = true →
    u.same w = true
  | .array items, v, w, h, h' => by
    obtain ⟨others, rfl, hitems⟩ := same_array_iff.1 h
    obtain ⟨last, rfl, hitems'⟩ := same_array_iff.1 h'
    exact same_array_iff.2 ⟨last, rfl, sameItems_trans items hitems hitems'⟩
  | .object members, v, w, h, h' => by
    obtain ⟨others, rfl, hlength, hmembers⟩ := same_object_iff.1 h
    obtain ⟨last, rfl, hlength', hmembers'⟩ := same_object_iff.1 h'
    exact same_object_iff.2
      ⟨last, rfl, hlength.trans hlength', sameMembers_trans members hmembers hmembers'⟩
  | .null, v, w, h, h' | .bool _, v, w, h, h' | .integer _, v, w, h, h' | .real _, v, w, h, h'
  | .text _, v, w, h, h' => same_trans_of_leaf (by simp [same]) (by simp [same]) h h'

theorem sameItems_trans : (items : List Value) → {others last : List Value} →
    sameItems items others = true → sameItems others last = true → sameItems items last = true
  | [], [], _, _, h' => h'
  | u :: rest, v :: others, [], _, h' => by simp [sameItems] at h'
  | u :: rest, v :: others, w :: last, h, h' => by
    simp only [sameItems, Bool.and_eq_true] at *
    exact ⟨same_trans u h.1 h'.1, sameItems_trans rest h.2 h'.2⟩

theorem sameMembers_trans : (members : List (String × Value)) →
    {others last : List (String × Value)} → sameMembers members others = true →
    sameMembers others last = true → sameMembers members last = true
  | [], _, _, _, _ => by simp [sameMembers]
  | (name, u) :: rest, others, last, h, h' => by
    simp only [sameMembers, Bool.and_eq_true] at h ⊢
    refine ⟨?_, sameMembers_trans rest h.2 h'⟩
    cases hlookup : others.lookup name with
    | none => simp [hlookup] at h
    | some v =>
      have hv : u.same v = true := by simpa [hlookup] using h.1
      obtain ⟨w, hw, hvw⟩ := lookup_of_sameMembers h' (mem_of_lookup hlookup)
      rw [hw]
      exact same_trans u hv hvw

end

theorem eq_of_same_text {s : String} {w : Value} (h : (text s).same w = true) : w = text s := by
  simp only [same, sameNumber, units?, Bool.or_eq_true, beq_iff_eq, Option.isSome_none,
    Bool.false_and, Bool.false_eq_true, or_false] at h
  exact h.symm

theorem eq_of_same_null {w : Value} (h : null.same w = true) : w = null := by
  simp only [same, sameNumber, units?, Bool.or_eq_true, beq_iff_eq, Option.isSome_none,
    Bool.false_and, Bool.false_eq_true, or_false] at h
  exact h.symm

end MetricLedger.Json.Value
