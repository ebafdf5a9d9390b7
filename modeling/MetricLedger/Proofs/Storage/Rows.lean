import MetricLedger.Proofs.Storage.Actions
import MetricLedger.Proofs.Stored.Same

/-!
# Rows

What putting a row does to all rows, and what saving an object leaves in the row of a key: the
object, or the one that was there if it holds the same values.
-/

namespace MetricLedger.Storage

open Json (Entries Value)

theorem putRow_of_lookup {key : String} {value : Value} {rows : List Row} (h : Sorted rows)
    (hlookup : rows.lookup key = some value) : putRow key value rows = rows := by
  induction rows with
  | nil => cases hlookup
  | cons row rest ih =>
    obtain ⟨k, v⟩ := row
    have ⟨hk, hrest⟩ := List.pairwise_cons.1 h
    rw [List.lookup_cons] at hlookup
    unfold putRow
    split at hlookup
    · rename_i heq
      cases hlookup
      rw [eq_of_beq heq, if_neg (String.lt_irrefl k), if_pos rfl]
    · rw [if_pos (hk _ (Value.mem_of_lookup hlookup)), ih hrest hlookup]

theorem lookup_of_mem {key : String} {value : Value} {rows : List Row} (h : Sorted rows)
    (hmem : (key, value) ∈ rows) : rows.lookup key = some value := by
  induction rows with
  | nil => cases hmem
  | cons row rest ih =>
    have ⟨hfirst, hrest⟩ := List.pairwise_cons.1 h
    rcases List.mem_cons.1 hmem with rfl | hmem
    · exact List.lookup_cons_self
    · have hne : (key == row.1) = false :=
        beq_eq_false_iff_ne.2 fun heq => String.lt_irrefl row.1 (heq ▸ hfirst _ hmem)
      rw [List.lookup_cons, hne]
      exact ih hrest hmem

theorem Table.mem_rows_iff {t : Table} {key : String} {value : Value} :
    (key, value) ∈ t.rows ↔ t.get? key = some value :=
  ⟨lookup_of_mem t.sorted, Value.mem_of_lookup⟩

theorem Table.put_of_get? {t : Table} {key : String} {value : Value} (h : t.get? key = some value) :
    t.put key value = t := by
  cases t with
  | mk rows sorted => simp only [Table.put, putRow_of_lookup sorted h]

namespace Tables

variable {t : Tables} {name name' : TableName} {key key' : String} {value : Value}

theorem setTable_table (t : Tables) (name : TableName) : t.setTable name (t.table name) = t := by
  cases name <;> rfl

theorem put_of_get? (h : (t.table name).get? key = some value) : t.put name key value = t := by
  rw [put, Table.put_of_get? h, setTable_table]

theorem get?_put_self : ((t.put name key value).table name).get? key = some value := by
  rw [put, table_setTable_self, Table.get?_put_self]

theorem get?_put_ne (h : ¬(name' = name ∧ key' = key)) :
    ((t.put name key value).table name').get? key' = (t.table name').get? key' := by
  by_cases hname : name' = name
  · subst hname
    rw [put, table_setTable_self, Table.get?_put_ne _ fun hkey => h ⟨rfl, hkey⟩]
  · rw [put, table_setTable_ne t hname]

theorem table_config (t : Tables) (row? : Option ConfigRow) :
    Tables.table { t with config := row? } = t.table := by
  funext name
  cases name <;> rfl

theorem config_put : (t.put name key value).config = t.config := config_setTable t name _

structure AgreesOff (t t' : Tables) (changed : TableName → String → Prop) :
    Prop where
  config : t.config = t'.config
  row : ∀ name key, ¬changed name key → (t.table name).get? key = (t'.table name).get? key

theorem agreesOff_refl (t : Tables) (changed : TableName → String → Prop) :
    t.AgreesOff t changed :=
  ⟨rfl, fun _ _ _ => rfl⟩

theorem agreesOff_put {t' : Tables} {changed : TableName → String → Prop}
    (h : t'.AgreesOff t changed) (hrow : changed name key) :
    (t'.put name key value).AgreesOff t changed where
  config := config_put.trans h.config
  row name' key' hne := by
    refine (get?_put_ne fun heq => hne ?_).trans (h.row name' key' hne)
    rw [heq.1, heq.2]
    exact hrow

end Tables

/-! ## Objects -/

theorem toObject_of_merge {members : List (String × Value)} (h : Value.merge members = members) :
    Entries.toObject (members.map fun (name, value) => (.text name, value)) = .object members := by
  rw [Entries.toObject, List.map_map]
  change Value.object (Value.merge (members.map id)) = _
  rw [List.map_id, h]

theorem sameMembers_of_all {members others : List (String × Value)}
    (h : ∀ name value, (name, value) ∈ members → (others.lookup name).any value.same = true) :
    Value.sameMembers members others = true := by
  induction members with
  | nil => rfl
  | cons member rest ih =>
    obtain ⟨name, value⟩ := member
    rw [Value.sameMembers, Bool.and_eq_true]
    refine ⟨?_, ih fun name value hmem => h name value (List.mem_cons_of_mem _ hmem)⟩
    have hvalue := h name value List.mem_cons_self
    cases hlookup : others.lookup name with
    | none => simp [hlookup] at hvalue
    | some other => simpa [hlookup] using hvalue

theorem same_of_sameAs {members : List (String × Value)} {stored : Value}
    (h : Entries.sameAs (members.map fun (name, value) => (.text name, value)) stored = true) :
    (Value.object members).same stored = true := by
  cases stored with
  | object others =>
    simp only [Entries.sameAs, List.length_map, List.all_map, Bool.and_eq_true, beq_iff_eq,
      List.all_eq_true] at h
    rw [Value.same, Bool.and_eq_true, beq_iff_eq]
    exact ⟨h.1.symm, sameMembers_of_all fun name value hmem => h.2 (name, value) hmem⟩
  | _ => cases h

theorem sameAs_of_same {members : List (String × Value)} {stored : Value}
    (h : (Value.object members).same stored = true) :
    Entries.sameAs (members.map fun (name, value) => (.text name, value)) stored = true := by
  obtain ⟨others, rfl, hlength, hmembers⟩ := Value.same_object_iff.1 h
  simp only [Entries.sameAs, List.length_map, List.all_map, Bool.and_eq_true, beq_iff_eq,
    List.all_eq_true]
  refine ⟨hlength.symm, fun (name, value) hmem => ?_⟩
  obtain ⟨other, hlookup, hsame⟩ := Value.lookup_of_sameMembers hmembers hmem
  simp only [Function.comp, hlookup, Option.any_some, hsame]

/-! ## Loading and saving -/

namespace History

theorem does_load? (name : TableName) (key : String) (t : Tables) :
    (load? name key).Does t (.ok ((t.table name).get? key)) t := rfl

theorem reads_load? (name : TableName) (key : String) : (load? name key).Reads := fun t =>
  ⟨_, does_load? name key t⟩

def settle (row? : Option Value) (payload : Value) : Option Value :=
  match row? with
  | some stored => if payload.same stored then some stored else some payload
  | none => some payload

theorem does_save_settle {members : List (String × Value)} (h : Value.merge members = members)
    (name : TableName) (key : String) (t : Tables) :
    ∃ payload, (save name key (.object members)).Does t (.ok ()) (t.put name key payload) ∧
      settle ((t.table name).get? key) (.object members) = some payload := by
  cases hrow : (t.table name).get? key with
  | none =>
    refine ⟨.object members, ?_, rfl⟩
    refine (Action.does_tables name.label "get_by_id" t).bind ?_
    rw [hrow]
    exact Action.does_write ..
  | some stored =>
    have hdoes : (save name key (.object members)).Does t (.ok ())
        (if Entries.sameAs (members.map fun (name, value) => (.text name, value)) stored then t
          else t.put name key (Entries.toObject
            (members.map fun (name, value) => (.text name, value)))) := by
      refine (Action.does_tables name.label "get_by_id" t).bind ?_
      rw [hrow]
      exact (Action.does_ofExcept (Entries.ofValue (.object members)) t).bind (Action.does_write ..)
    split at hdoes
    · rename_i hsame
      refine ⟨stored, ?_, if_pos (same_of_sameAs hsame)⟩
      rwa [Tables.put_of_get? hrow]
    · rename_i hother
      rw [toObject_of_merge h] at hdoes
      exact ⟨.object members, hdoes, if_neg fun hsame => hother (sameAs_of_same hsame)⟩

theorem does_save {members : List (String × Value)} (h : Value.merge members = members)
    (name : TableName) (key : String) (t : Tables) :
    ∃ payload, (save name key (.object members)).Does t (.ok ()) (t.put name key payload) ∧
      (payload = .object members ∨ (t.table name).get? key = some payload ∧
        (Value.object members).same payload = true) := by
  obtain ⟨payload, hdoes, hsettle⟩ := does_save_settle h name key t
  refine ⟨payload, hdoes, ?_⟩
  unfold settle at hsettle
  split at hsettle
  · rename_i stored hrow
    split at hsettle
    · rename_i hsame
      cases hsettle
      exact .inr ⟨hrow, hsame⟩
    · exact .inl (Option.some.inj hsettle).symm
  · exact .inl (Option.some.inj hsettle).symm

/-- The rows of a table are in order as they are. -/
theorem mergeSort_rows (t : Table) : (t.rows.mergeSort fun r r' => r.1 ≤ r'.1) = t.rows :=
  List.mergeSort_of_pairwise <| t.sorted.imp fun hlt =>
    decide_eq_true (String.not_lt.1 (String.lt_asymm hlt))

theorem does_loadAll (name : TableName) (t : Tables) :
    (loadAll name).Does t (.ok (t.table name).rows) t := by
  refine (Action.does_tables name.label "query" t).bind ?_
  dsimp only
  rw [mergeSort_rows]
  exact Action.does_pure _ t

theorem keeps_save {P : Tables → Prop} {name : TableName} {key : String}
    (hput : ∀ t value, P t → P (t.put name key value)) (payload : Value) :
    (save name key payload).Keeps P := by
  intro t ht
  cases hrow : (t.table name).get? key with
  | none =>
    refine ⟨.ok (), t.put name key (Column.keep payload), ?_, hput t _ ht⟩
    refine (Action.does_tables name.label "get_by_id" t).bind ?_
    rw [hrow]
    exact Action.does_write ..
  | some stored =>
    have hrest : (Action.ofExcept (Entries.ofValue payload) >>= fun entries =>
        Action.write name.label "flush"
          (if entries.sameAs stored then t else t.put name key entries.toObject)).Keeps P := by
      refine Action.keeps_bind (Action.reads_ofExcept _).keeps fun entries => ?_
      refine Action.keeps_write _ _ ?_
      split
      · exact ht
      · exact hput t _ ht
    obtain ⟨result, t', hdoes, ht'⟩ := hrest t ht
    refine ⟨result, t', (Action.does_tables name.label "get_by_id" t).bind ?_, ht'⟩
    rw [hrow]
    exact hdoes

end History

end MetricLedger.Storage
