import Mathlib.Data.List.Pairwise
import MetricLedger.Proofs.Stored.Recorded
import MetricLedger.Proofs.Stored.Steady

/-!
# Records in rows of any origin

Whoever wrote the row of a key, recording an item does what adding it does to the history that is
read from the row, and then the row is read as the history that has grown. What is listed of the
other items does not change, however they were spelled.
-/

namespace MetricLedger

open List (Forall₂)
open Json (Value)
open Storage (Tables)

theorem Json.Value.forall₂_of_sameItems {items others : List Value}
    (h : sameItems items others = true) : Forall₂ (fun v w => v.same w = true) items others := by
  induction items generalizing others with
  | nil =>
    cases others with
    | nil => exact .nil
    | cons => simp [sameItems] at h
  | cons v rest ih =>
    cases others with
    | nil => simp [sameItems] at h
    | cons w others =>
      rw [sameItems, Bool.and_eq_true] at h
      exact .cons h.1 (ih h.2)

theorem Ascending.eq_of_time_eq {α : Type} [Timed α] {items : List α} (h : Ascending items)
    {x y : α} (hx : x ∈ items) (hy : y ∈ items) (htime : time x = time y) : x = y := by
  by_contra hne
  have happart : items.Pairwise fun x y => time x ≠ time y := h.imp Int.ne_of_lt
  have : Std.Symm fun x y : α => time x ≠ time y := ⟨fun _ _ => Ne.symm⟩
  exact happart.forall hx hy hne htime

namespace Codec

variable {α : Type} [Timed α]

/-- The second item is what is read back of the first one. Of an item that is not plain the row
may keep another spelling. -/
def ReadsBack (codec : Codec α) (plain : α → Prop) (x y z : α) : Prop :=
  time z = time y ∧ (codec.Settles y z ∨ y = x ∧ ¬plain x ∧ codec.Alike x z)

end Codec

namespace Series

variable {α : Type} [Timed α] {codec : Codec α} {s : Series α} {payload : Value}

theorem ofStored_eq_ok (h : ofStored codec payload = .ok s) :
    ∃ field items, payload.field "items" = .ok field ∧ field.elements = .ok items ∧
      Forall₂ (fun w x => codec.decode w = .ok x) items s.items := by
  simp only [ofStored, bind_eq_ok_iff] at h
  obtain ⟨field, hfield, items, hitems, xs, hdecode, h⟩ := h
  split at h
  · obtain ⟨_, -, h⟩ := bind_eq_ok_iff.1 h
    obtain ⟨_, -, h⟩ := bind_eq_ok_iff.1 h
    cases h
    exact ⟨field, items, hfield, hitems, mapM_eq_ok_iff.1 hdecode⟩
  · cases h

theorem items_of_same_form {capacity : Int} {vs : List Value} (hmachine : payload.IsMachine)
    (hsame : (form capacity vs).same payload = true) (h : ofStored codec payload = .ok s) :
    Forall₂ (fun v z => ∃ w, (w.IsMachine ∧ v.same w = true) ∧ codec.decode w = .ok z)
      vs s.items := by
  obtain ⟨others, rfl, -, hmembers⟩ := Value.same_object_iff.1 hsame
  obtain ⟨items, hlookup, hitems⟩ := Value.lookup_of_sameMembers hmembers
    (List.mem_cons_of_mem _ List.mem_cons_self)
  obtain ⟨ws, rfl, hws⟩ := Value.same_array_iff.1 hitems
  have hspelled : Forall₂ (fun w v => w.IsMachine ∧ v.same w = true) ws vs :=
    (List.forall₂_and_left ..).2
      ⟨Value.isMachine_array.1 (hmachine.of_lookup hlookup), (Value.forall₂_of_sameItems hws).flip⟩
  obtain ⟨field, items, hfield, hread, hdecode⟩ := ofStored_eq_ok h
  simp only [Value.field, hlookup, Except.ok.injEq] at hfield
  subst hfield
  cases hread
  exact forall₂_comp hspelled.flip hdecode

end Series

namespace Store

variable {α : Type} [Timed α] {store : Store α} {t : Tables} {key : String}

def Opens (store : Store α) (t : Tables) (key : String) : Option (Series α) → Prop
  | none => (t.table store.table).get? key = none
  | some s => ∃ payload, (t.table store.table).get? key = some payload ∧ payload.IsMachine ∧
      Series.ofStored store.codec payload = .ok s ∧ ∀ y ∈ s.items, ∃ v, store.codec.encode y = .ok v

structure Refines (store : Store α) (plain : α → Prop) (key : String) (s : Series α) (x : α)
    (t t' : Tables) (s' : Series α) : Prop where
  row : ∃ payload, (t'.table store.table).get? key = some payload ∧
    Series.ofStored store.codec payload = .ok s'
  capacity : s'.capacity = s.capacity
  items : Forall₂ (store.codec.ReadsBack plain x) (s.add x).1.items s'.items
  others : ∀ z ∈ s'.items, time z ≠ time x →
    ∃ y ∈ s.items, time y = time z ∧ store.codec.encode z = store.codec.encode y
  unchanged : t'.AgreesOff t fun name k => name = store.table ∧ k = key

theorem Opens.does_load? {s? : Option (Series α)} (h : store.Opens t key s?) :
    (store.load? key).Does t (.ok s?) t := by
  refine (Storage.History.does_load? store.table key t).bind ?_
  cases s? with
  | none =>
    rw [show (t.table store.table).get? key = none from h]
    exact Storage.Action.does_pure none t
  | some s =>
    obtain ⟨payload, hrow, -, hread, -⟩ := h
    rw [hrow]
    cases payload with
    | null => cases hread
    | _ => exact (does_decode hread).bind (Storage.Action.does_pure (some s) t)

theorem Opens.readable {plain : α → Prop} (hsteady : store.codec.Steady plain)
    {s? : Option (Series α)} (h : store.Opens t key s?) (capacity : Int) :
    ∀ y ∈ (s?.getD (.empty capacity)).items, store.codec.Readable y := by
  cases s? with
  | none => exact fun y hy => nomatch hy
  | some s =>
    intro y hy
    obtain ⟨payload, -, -, hread, hwritten⟩ := h
    obtain ⟨v, hv⟩ := hwritten y hy
    obtain ⟨_, ws, -, -, hdecode⟩ := Series.ofStored_eq_ok hread
    obtain ⟨w, -, hw⟩ := exists_of_mem_forall₂ hdecode.flip hy
    exact hsteady.readable w y v hw hv

theorem others_of_readsBack {plain : α → Prop} {s s' : Series α} {x : α}
    (h : Forall₂ (store.codec.ReadsBack plain x) (s.add x).1.items s'.items) :
    ∀ z ∈ s'.items, time z ≠ time x →
      ∃ y ∈ s.items, time y = time z ∧ store.codec.encode z = store.codec.encode y := by
  intro z hz hne
  obtain ⟨y, hy, htime, hback⟩ := exists_of_mem_forall₂ h.flip hz
  rcases Series.mem_add hy with rfl | hmem
  · exact absurd htime hne
  · refine ⟨y, hmem, htime.symm, ?_⟩
    rcases hback with ⟨-, v, hencode, -, hagain⟩ | ⟨rfl, -⟩
    · rw [hencode, hagain]
    · exact absurd htime hne

/-- A row that is left as it is holds what would have been written. -/
theorem readsBack_of_kept {plain : α → Prop} (hsteady : store.codec.Steady plain)
    {s grown : Series α} {x : α} {vs : List Value} {payload : Value}
    (hmachine : payload.IsMachine) (hread : Series.ofStored store.codec payload = .ok s)
    (hsettles : Forall₂ store.codec.Settles (s.add x).1.items grown.items)
    (hencode : Forall₂ (fun y v => store.codec.encode y = .ok v) grown.items vs)
    (hsame : (Series.form grown.capacity vs).same payload = true) :
    Forall₂ (store.codec.ReadsBack plain x) (s.add x).1.items s.items := by
  have hchain := forall₂_comp (forall₂_comp hsettles hencode)
    (Series.items_of_same_form hmachine hsame hread)
  have hfrom := (List.forall₂_and_left ..).2
    ⟨fun y (hy : y ∈ (s.add x).1.items) => Series.mem_add hy, hchain⟩
  have hboth := (List.forall₂_and_left ..).2 ⟨fun z (hz : z ∈ s.items) => hz, hfrom.flip⟩
  refine hboth.flip.imp fun y z hyz => ?_
  obtain ⟨hz, hy, v, ⟨y', hsettled, hv⟩, w, ⟨hw, hvw⟩, hdecode⟩ := hyz
  have hwritten : store.codec.encode y = .ok v := by
    obtain ⟨-, v', hy', -, hagain⟩ := hsettled
    rw [hy', ← hagain, hv]
  obtain ⟨htime, halike, heq⟩ := hsteady.kept y y' v w z hsettled hwritten hw hvw hdecode
  refine ⟨htime, ?_⟩
  rcases hy with rfl | hmem
  · by_cases hplain : plain y
    · rw [heq (.inl hplain)]
      exact .inl hsettled
    · exact .inr ⟨rfl, hplain, halike⟩
  · rw [heq (.inr (s.ascending.eq_of_time_eq hz hmem htime))]
    exact .inl hsettled

theorem exists_refines {plain : α → Prop} (hsteady : store.codec.Steady plain)
    {s? : Option (Series α)} {x : α} (h : store.Opens t key s?) (hx : store.codec.Readable x)
    (capacity : Int) :
    ∃ t' s', (store.record capacity key x).Does t
        (.ok ((s?.getD (.empty capacity)).add x).2) t' ∧
      store.Refines plain key (s?.getD (.empty capacity)) x t t' s' := by
  have hreadable : ∀ y ∈ ((s?.getD (.empty capacity)).add x).1.items,
      ∃ z, store.codec.Settles y z := by
    intro y hy
    have hy' : store.codec.Readable y := by
      rcases Series.mem_add hy with rfl | hy
      · exact hx
      · exact h.readable hsteady capacity y hy
    obtain ⟨v, z, hv, hz⟩ := hy'
    exact ⟨z, hsteady.settles y v z hv hz⟩
  obtain ⟨zs, hzs⟩ := exists_forall₂ hreadable
  have hascending := ascending_of_forall₂ (fun _ _ h => h.1.symm) hzs
    ((s?.getD (.empty capacity)).add x).1.ascending
  -- `grown` is what would be read if the row was written anew
  let grown : Series α := ⟨(s?.getD (.empty capacity)).capacity, zs, hascending⟩
  have hsettled : ∀ z ∈ grown.items, store.codec.Settled z := by
    intro z hz
    obtain ⟨y, -, hyz⟩ := exists_of_mem_forall₂ hzs.flip hz
    exact Codec.settled_of_settles hyz
  obtain ⟨payload, hstored⟩ := Series.exists_storedAs hsettled
  obtain ⟨vs, hvs, rfl⟩ := Series.toStored_eq_ok_iff.1 hstored.stored
  have hrelated : Series.Related store.codec.Settles ((s?.getD (.empty capacity)).add x).1 grown :=
    ⟨Series.capacity_add _ x, hzs⟩
  obtain ⟨payload, hsave, hpayload⟩ :=
    Storage.History.does_save (Series.merge_form _ vs) store.table key t
  have hdoes := does_record_of_stored h.does_load?
    (hrelated.toStored_eq.trans hstored.stored) hsave
  have hframe : (t.put store.table key payload).AgreesOff t
      fun name k => name = store.table ∧ k = key :=
    Tables.agreesOff_put (Tables.agreesOff_refl t _) ⟨rfl, rfl⟩
  rcases hpayload with rfl | ⟨hrow, hsame⟩
  · have hback := hzs.imp fun y z hyz =>
      (⟨hyz.1, .inl hyz⟩ : store.codec.ReadsBack plain x y z)
    exact ⟨_, grown, hdoes, ⟨_, Tables.get?_put_self, hstored.ofStored⟩, rfl, hback,
      others_of_readsBack hback, hframe⟩
  · cases s? with
    | none =>
      rw [show (t.table store.table).get? key = none from h] at hrow
      cases hrow
    | some s =>
      obtain ⟨stored, hrow', hmachine, hread, -⟩ := h
      cases hrow.symm.trans hrow'
      have hgrown : Forall₂ store.codec.Settles (s.add x).1.items grown.items := hzs
      have hback := readsBack_of_kept hsteady hmachine hread hgrown hvs hsame
      exact ⟨_, s, hdoes, ⟨_, Tables.get?_put_self, hread⟩, rfl, hback,
        others_of_readsBack hback, hframe⟩

/-- **Recording refines adding.** If the row of a key is absent, or is read as a history that can
be written, by whomever it was stored, then recording an item that can be read again gives the
outcome of adding it. The row is then read as the history with the item added, each item read back
and with the capacity it had; what is listed of the other items is what was listed before, and no
other row is touched. A new history has the capacity that was asked for. -/
theorem record_refines_add (t : Tables) (key : String) (capacity : Int) :
    (∀ s? x, metrics.Opens t key s? → Metric.codec.Readable x →
      ∃ t' s', (metrics.record capacity key x).Does t
          (.ok ((s?.getD (.empty capacity)).add x).2) t' ∧
        metrics.Refines Metric.IsPlain key (s?.getD (.empty capacity)) x t t' s') ∧
    ∀ kind s? x, (rates kind).Opens t key s? → (RateRecord.codec kind).Readable x →
      ∃ t' s', ((rates kind).record capacity key x).Does t
          (.ok ((s?.getD (.empty capacity)).add x).2) t' ∧
        (rates kind).Refines RateRecord.IsPlain key (s?.getD (.empty capacity)) x t t' s' := by
  refine ⟨fun s? x h hx => ?_, fun kind s? x h hx => ?_⟩
  · exact exists_refines Metric.codec_steady h hx capacity
  · exact exists_refines (RateRecord.codec_steady kind) h hx capacity

def foreignHistory : Value :=
  .object [("items", .array [
      .object [("update_time", .text "1"), ("redemption_rate", .text "01.50"),
        ("denom", .text "d")],
      .object [("denom", .text "d"), ("redemption_rate", .text "2"),
        ("update_time", .real (.finite false 0x10000000000000 (-51)))]]),
    ("capacity", .integer 1)]

def foreignSeries : Series RateRecord where
  capacity := 1
  items := [⟨.redemption, .text "d", .finite false 150 (-2), 1⟩,
    ⟨.redemption, .text "d", .finite false 2 0, 2⟩]
  ascending := by decide

def laterRecord : RateRecord := ⟨.redemption, .text "d", .finite false 30 (-1), 3⟩

theorem record_refines_add_foreign :
    ∃ t' s', ((rates .redemption).record 7 "d" laterRecord).Does
        (Tables.empty.put .redemptionRates "d" foreignHistory) (.ok .evictedOldest) t' ∧
      (rates .redemption).Refines RateRecord.IsPlain "d" foreignSeries laterRecord
        (Tables.empty.put .redemptionRates "d" foreignHistory) t' s' := by
  have hmachine : foreignHistory.IsMachine := by
    simp [foreignHistory, Binary64.isMachine, Binary64.leastMantissa, Binary64.leastExponent,
      Binary64.greatestExponent]
  have hfirst : (Decimal.finite false 150 (-2)).canonicalText? = some "1.5" := by decide +kernel
  have hsecond : (Decimal.finite false 2 0).canonicalText? = some "2" := by decide +kernel
  have hlater : laterRecord.rate.canonicalText? = some "3" := by decide +kernel
  have hwritten : ∀ y ∈ foreignSeries.items,
      ∃ v, (RateRecord.codec .redemption).encode y = .ok v := by
    intro y hy
    simp only [foreignSeries, List.mem_cons, List.not_mem_nil, or_false] at hy
    rcases hy with rfl | rfl
    · exact ⟨_, RateRecord.toStored_eq hfirst⟩
    · exact ⟨_, RateRecord.toStored_eq hsecond⟩
  have hopens : (rates .redemption).Opens (Tables.empty.put .redemptionRates "d" foreignHistory) "d"
      (some foreignSeries) :=
    ⟨foreignHistory, Tables.get?_put_self, hmachine, rfl, hwritten⟩
  have hreadable : (RateRecord.codec .redemption).Readable laterRecord :=
    ⟨_, ⟨.redemption, .text "d", .finite false 3 0, 3⟩, RateRecord.toStored_eq hlater, rfl⟩
  have houtcome : (foreignSeries.add laterRecord).2 = .evictedOldest := by decide +kernel
  rw [← houtcome]
  exact (record_refines_add _ "d" 7).2 .redemption (some foreignSeries) laterRecord hopens hreadable

end Store

end MetricLedger
