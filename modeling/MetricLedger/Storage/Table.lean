import MetricLedger.Json.Value

/-!
# Tables

A table holds one row for each key. They are kept in ascending order of the keys by code point, so
that tables with the same rows are equal; no reader counts on it, as a database keeps none. The main
statements say what a key leads to after a row was put, and that no other key is affected.
-/

namespace MetricLedger.Storage

open Json (Value)

abbrev Row := String × Value

theorem lt_of_not_lt_of_ne {k k' : String} (h : ¬k' < k) (hne : k' ≠ k) : k < k' := by
  refine Decidable.byContradiction fun h' => hne ?_
  exact String.le_antisymm (String.not_lt.1 h') (String.not_lt.1 h)

/-- Puts a row in its place, or in the place of the row of its key. -/
def putRow (key : String) (value : Value) : List Row → List Row
  | [] => [(key, value)]
  | (k, v) :: rest =>
    if k < key then (k, v) :: putRow key value rest
    else if k = key then (key, value) :: rest
    else (key, value) :: (k, v) :: rest

abbrev Sorted (rows : List Row) : Prop := rows.Pairwise fun r r' => r.1 < r'.1

theorem mem_putRow {key : String} {value : Value} {r : Row} {rows : List Row}
    (h : r ∈ putRow key value rows) : r = (key, value) ∨ r ∈ rows := by
  induction rows with
  | nil => simp_all [putRow]
  | cons y rest ih =>
    obtain ⟨k, v⟩ := y
    unfold putRow at h
    split at h
    · rcases List.mem_cons.1 h with rfl | h
      · exact .inr List.mem_cons_self
      · exact (ih h).imp_right (List.mem_cons_of_mem _)
    · split at h
      · exact (List.mem_cons.1 h).imp_right (List.mem_cons_of_mem _)
      · exact List.mem_cons.1 h

theorem sorted_putRow {rows : List Row} (h : Sorted rows) (key : String) (value : Value) :
    Sorted (putRow key value rows) := by
  induction rows with
  | nil => simp [putRow]
  | cons y rest ih =>
    obtain ⟨k, v⟩ := y
    have ⟨hk, hr⟩ := List.pairwise_cons.1 h
    unfold putRow
    split
    · refine List.pairwise_cons.2 ⟨fun r hmem => ?_, ih hr⟩
      rcases mem_putRow hmem with rfl | hmem
      · assumption
      · exact hk r hmem
    · rename_i hlt
      split
      · rename_i heq
        exact List.pairwise_cons.2 ⟨fun r hmem => heq ▸ hk r hmem, hr⟩
      · rename_i hne
        have hkey : key < k := lt_of_not_lt_of_ne hlt hne
        refine List.pairwise_cons.2 ⟨fun r hmem => ?_, h⟩
        rcases List.mem_cons.1 hmem with rfl | hmem
        · exact hkey
        · exact String.lt_trans hkey (hk r hmem)

theorem lookup_putRow_self (key : String) (value : Value) (rows : List Row) :
    (putRow key value rows).lookup key = some value := by
  induction rows with
  | nil => simp [putRow]
  | cons y rest ih =>
    obtain ⟨k, v⟩ := y
    unfold putRow
    split
    · rename_i hlt
      have hne : (key == k) = false :=
        beq_eq_false_iff_ne.2 fun h => String.lt_irrefl k (by rw [h] at hlt; exact hlt)
      simp [List.lookup_cons, hne, ih]
    · split <;> simp

theorem lookup_putRow_ne {key other : String} (h : other ≠ key) (value : Value)
    (rows : List Row) : (putRow key value rows).lookup other = rows.lookup other := by
  have hne : (other == key) = false := beq_eq_false_iff_ne.2 h
  induction rows with
  | nil => simp [putRow, List.lookup_cons, hne]
  | cons y rest ih =>
    obtain ⟨k, v⟩ := y
    unfold putRow
    split
    · simp only [List.lookup_cons, ih]
    · split
      · rename_i heq
        simp [List.lookup_cons, heq, hne]
      · simp [List.lookup_cons, hne]

structure Table where
  rows : List Row
  sorted : Sorted rows

namespace Table

def empty : Table := ⟨[], .nil⟩

instance : Inhabited Table := ⟨empty⟩

def get? (t : Table) (key : String) : Option Value := t.rows.lookup key

def put (t : Table) (key : String) (value : Value) : Table :=
  ⟨putRow key value t.rows, sorted_putRow t.sorted key value⟩

def insert? (t : Table) (key : String) (value : Value) : Option Table :=
  if (t.get? key).isSome then none else some (t.put key value)

theorem get?_put_self (t : Table) (key : String) (value : Value) :
    (t.put key value).get? key = some value :=
  lookup_putRow_self key value t.rows

theorem get?_put_ne (t : Table) {key other : String} (h : other ≠ key) (value : Value) :
    (t.put key value).get? other = t.get? other :=
  lookup_putRow_ne h value t.rows

end Table

end MetricLedger.Storage
