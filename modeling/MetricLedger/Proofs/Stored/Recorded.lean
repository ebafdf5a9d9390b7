import MetricLedger.Store
import MetricLedger.Proofs.Series.Related
import MetricLedger.Proofs.Storage.Rows
import MetricLedger.Proofs.Stored.Items

/-!
# Recorded items

What the row of a key holds after an item was recorded: the history of the key with the item added,
as it is read back. No other row is touched.
-/

namespace MetricLedger

open List (Forall₂)
open Json (Value)
open Storage (Action Tables)

theorem Codec.alike_of_sameItems {α : Type} {codec : Codec α} {xs ys : List α} {vs ws : List Value}
    (h : Forall₂ (fun x v => codec.encode x = .ok v) xs vs)
    (h' : Forall₂ (fun x v => codec.encode x = .ok v) ys ws)
    (hsame : Value.sameItems vs ws = true) : Forall₂ codec.Alike xs ys := by
  induction h generalizing ys ws with
  | nil =>
    cases h' with
    | nil => exact .nil
    | cons => simp [Value.sameItems] at hsame
  | cons hx _ ih =>
    cases h' with
    | nil => simp [Value.sameItems] at hsame
    | cons hy hrest =>
      rw [Value.sameItems, Bool.and_eq_true] at hsame
      exact .cons (.inr ⟨_, _, hx, hy, hsame.1⟩) (ih hrest hsame.2)

/-! ## Rows of histories -/

namespace Series

variable {α : Type} [Timed α] {codec : Codec α} {s s' : Series α} {payload payload' : Value}

def form (capacity : Int) (items : List Value) : Value :=
  .object [("capacity", .integer capacity), ("items", .array items)]

theorem toStored_eq_ok_iff : s.toStored codec = .ok payload ↔
    ∃ items, Forall₂ (fun x v => codec.encode x = .ok v) s.items items ∧
      payload = form s.capacity items := by
  simp only [toStored, bind_eq_ok_iff, mapM_eq_ok_iff]
  refine exists_congr fun items => and_congr_right fun _ => ⟨fun h => ?_, fun h => ?_⟩
  · exact (Except.ok.inj h).symm
  · rw [h]
    rfl

structure StoredAs (codec : Codec α) (s : Series α) (payload : Value) : Prop where
  settled : ∀ x ∈ s.items, codec.Settled x
  stored : s.toStored codec = .ok payload

theorem StoredAs.ofStored (h : s.StoredAs codec payload) : ofStored codec payload = .ok s := by
  obtain ⟨items, hitems, rfl⟩ := toStored_eq_ok_iff.1 h.stored
  have hboth := (List.forall₂_and_left ..).2 ⟨h.settled, hitems⟩
  have hdecode : items.mapM codec.decode = .ok s.items := by
    refine mapM_eq_ok_iff.2 (hboth.imp fun x v hx => ?_).flip
    obtain ⟨⟨w, hw, hread⟩, hv⟩ := hx
    cases hw.symm.trans hv
    exact hread
  have hascending := s.ascending
  simp [Series.ofStored, form, Value.field, List.lookup_cons, Value.elements, Value.toInteger,
    bind, Except.bind, pure, Except.pure, hdecode, hascending]

theorem exists_storedAs (h : ∀ x ∈ s.items, codec.Settled x) :
    ∃ payload, s.StoredAs codec payload := by
  have hencode : ∀ x ∈ s.items, ∃ v, codec.encode x = .ok v := fun x hx =>
    (h x hx).imp fun _ hv => hv.1
  obtain ⟨vs, hvs⟩ := exists_forall₂ hencode
  exact ⟨_, h, toStored_eq_ok_iff.2 ⟨vs, hvs, rfl⟩⟩

theorem Related.toStored_eq (h : Related codec.Settles s s') :
    s.toStored codec = s'.toStored codec := by
  have hitems : s.items.mapM codec.encode = s'.items.mapM codec.encode := by
    refine mapM_congr (h.items.imp fun x y hxy => ?_)
    obtain ⟨-, v, hx, -, hy⟩ := hxy
    rw [hx, hy]
  rw [toStored, toStored, hitems, h.capacity]

theorem StoredAs.alike (h : s.StoredAs codec payload) (h' : s'.StoredAs codec payload')
    (hsame : payload.same payload' = true) : Related codec.Alike s s' := by
  obtain ⟨items, hitems, rfl⟩ := toStored_eq_ok_iff.1 h.stored
  obtain ⟨items', hitems', rfl⟩ := toStored_eq_ok_iff.1 h'.stored
  obtain ⟨_, heq, -, hmembers⟩ := Value.same_object_iff.1 hsame
  cases heq
  simp [Value.sameMembers, List.lookup_cons, Value.same_integer,
    Value.same_array_iff] at hmembers
  exact ⟨hmembers.1, Codec.alike_of_sameItems hitems hitems' hmembers.2⟩

theorem settled_add (h : ∀ x ∈ s.items, codec.Settled x) {y : α} (hy : codec.Settled y) :
    ∀ x ∈ (s.add y).1.items, codec.Settled x := by
  intro x hx
  rcases mem_add hx with rfl | hx
  · exact hy
  · exact h x hx

theorem merge_form (capacity : Int) (items : List Value) :
    Value.merge [("capacity", .integer capacity), ("items", .array items)] =
      [("capacity", .integer capacity), ("items", .array items)] := by
  simp [Value.merge, Json.put]

end Series

/-! ## Recording -/

namespace Store

variable {α : Type} [Timed α] {store : Store α} {t : Tables} {key : String} {s : Series α}

def Holds (store : Store α) (t : Tables) (key : String) (s : Series α) : Prop :=
  ∃ payload, (t.table store.table).get? key = some payload ∧ s.StoredAs store.codec payload

def Shows (store : Store α) (t : Tables) (key : String) : Option (Series α) → Prop
  | none => (t.table store.table).get? key = none
  | some s => store.Holds t key s

theorem Shows.of_row_eq {t' : Tables} {s? : Option (Series α)} (h : store.Shows t key s?)
    (hrow : (t'.table store.table).get? key = (t.table store.table).get? key) :
    store.Shows t' key s? := by
  cases s? with
  | none => exact hrow.trans h
  | some s =>
    obtain ⟨payload, hpayload, hstored⟩ := h
    exact ⟨payload, hrow.trans hpayload, hstored⟩

theorem does_decode {payload : Value} (h : Series.ofStored store.codec payload = .ok s) :
    (store.decode key payload).Does t (.ok s) t := by
  rw [decode, h]
  exact Action.does_pure s t

theorem does_load? {s? : Option (Series α)} (h : store.Shows t key s?) :
    (store.load? key).Does t (.ok s?) t := by
  refine (Storage.History.does_load? store.table key t).bind ?_
  cases s? with
  | none =>
    rw [show (t.table store.table).get? key = none from h]
    exact Action.does_pure none t
  | some s =>
    obtain ⟨payload, hrow, hstored⟩ := h
    obtain ⟨items, -, rfl⟩ := Series.toStored_eq_ok_iff.1 hstored.stored
    rw [hrow]
    exact (does_decode hstored.ofStored).bind (Action.does_pure (some s) t)

theorem settled_of_shows {s? : Option (Series α)} (h : store.Shows t key s?) (capacity : Int) :
    ∀ x ∈ (s?.getD (.empty capacity)).items, store.codec.Settled x := by
  cases s? with
  | none => exact fun x hx => nomatch hx
  | some s =>
    obtain ⟨payload, -, hstored⟩ := h
    exact hstored.settled

theorem does_record_of_stored {s? : Option (Series α)} {x : α} {capacity : Int} {payload : Value}
    {t' : Tables} (hload : (store.load? key).Does t (.ok s?) t)
    (hstored : ((s?.getD (.empty capacity)).add x).1.toStored store.codec = .ok payload)
    (hsave : (Storage.History.save store.table key payload).Does t (.ok ()) t') :
    (store.record capacity key x).Does t (.ok ((s?.getD (.empty capacity)).add x).2) t' := by
  refine hload.bind ?_
  dsimp only
  cases hadd : (s?.getD (.empty capacity)).add x with
  | mk grown outcome =>
    rw [hadd] at hstored
    dsimp only at hstored ⊢
    rw [hstored]
    exact (Action.does_ofExcept _ t).bind (hsave.bind (Action.does_pure outcome _))

theorem does_record {s? : Option (Series α)} {x y : α} (h : store.Shows t key s?)
    (hxy : store.codec.Settles x y) (capacity : Int) :
    ∃ payload s', (store.record capacity key x).Does t
        (.ok ((s?.getD (.empty capacity)).add y).2) (t.put store.table key payload) ∧
      s'.StoredAs store.codec payload ∧
      Series.Related store.codec.Alike ((s?.getD (.empty capacity)).add y).1 s' := by
  have hsettled := settled_of_shows h capacity
  have hself : Series.Related store.codec.Settles (s?.getD (.empty capacity))
      (s?.getD (.empty capacity)) :=
    ⟨rfl, List.forall₂_same.2 fun z hz => Codec.settles_of_settled (hsettled z hz)⟩
  -- `x` is what is written, and `y` what will be read back of it
  obtain ⟨hadded, houtcome⟩ := hself.add (fun _ _ h => h.1.symm) hxy
  obtain ⟨payload, hstored⟩ :=
    Series.exists_storedAs (Series.settled_add hsettled (Codec.settled_of_settles hxy))
  obtain ⟨items, -, rfl⟩ := Series.toStored_eq_ok_iff.1 hstored.stored
  obtain ⟨kept, hsave, hkept⟩ :=
    Storage.History.does_save (Series.merge_form _ items) store.table key t
  have hwritten := (hadded.toStored_eq).trans hstored.stored
  have hdoes : (store.record capacity key x).Does t
      (.ok ((s?.getD (.empty capacity)).add y).2) (t.put store.table key kept) := by
    rw [← houtcome]
    exact does_record_of_stored (does_load? h) hwritten hsave
  -- a row whose payload counts as the same is not written again
  rcases hkept with rfl | ⟨hrow, hsame⟩
  · exact ⟨_, _, hdoes, hstored, rfl, List.forall₂_same.2 fun _ _ => .inl rfl⟩
  · cases s? with
    | none =>
      rw [show (t.table store.table).get? key = none from h] at hrow
      cases hrow
    | some s =>
      obtain ⟨payload, hrow', hstored'⟩ := h
      cases hrow.symm.trans hrow'
      exact ⟨_, _, hdoes, hstored', hstored.alike hstored' hsame⟩

end Store

end MetricLedger
