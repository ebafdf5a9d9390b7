import MetricLedger.Query
import MetricLedger.Proofs.Stored.Recorded

/-!
# Answers to queries

A query changes nothing, whatever the rows hold. On the row of a history it is answered from the
items of the history.
-/

namespace MetricLedger

open Storage (Action Tables)
open Json (Value)

namespace Store

variable {α : Type} [Timed α] {store : Store α} {t : Tables} {key : String} {s : Series α}

theorem reads_decode (store : Store α) (key : String) (payload : Value) :
    (store.decode key payload).Reads := by
  intro t
  unfold decode
  split
  · exact ⟨_, Action.does_pure _ t⟩
  · split
    · exact ⟨_, Action.does_fail _ t⟩
    · exact ⟨_, Action.does_throw _ t⟩

theorem reads_load? (store : Store α) (key : String) : (store.load? key).Reads := by
  refine Action.reads_bind (Storage.History.reads_load? store.table key) fun row? => ?_
  split
  · exact Action.reads_pure _
  · exact Action.reads_pure _
  · exact Action.reads_bind (reads_decode store key _) fun series => Action.reads_pure _

theorem reads_load (store : Store α) (key : String) : (store.load key).Reads := by
  refine Action.reads_bind (reads_load? store key) fun series? => ?_
  split
  · exact Action.reads_pure _
  · exact Action.reads_refuse _

theorem reads_latest (store : Store α) (key : String) : (store.latest key).Reads := by
  refine Action.reads_bind (reads_load store key) fun series => ?_
  split
  · exact Action.reads_pure _
  · exact Action.reads_refuse _

theorem reads_historical (store : Store α) (key : String) (limit : Option Nat) :
    (store.historical key limit).Reads :=
  Action.reads_bind (reads_load store key) fun _ => Action.reads_pure _

theorem reads_mapM {β γ : Type} {f : β → Action γ} (h : ∀ b, (f b).Reads) (items : List β) :
    (items.mapM f).Reads := by
  induction items with
  | nil => exact Action.reads_pure []
  | cons b rest ih =>
    rw [List.mapM_cons]
    exact Action.reads_bind (h b) fun _ => Action.reads_bind ih fun _ => Action.reads_pure _

/-- Where an item fails, going through all of them fails at the first one that does. -/
theorem exists_first_of_mapM {β γ : Type} {f : β → Action γ} (h : ∀ b, (f b).Reads) {b : β}
    {items : List β} (hmem : b ∈ items) {e : Failure} (hb : (f b).Does t (.error e) t) :
    ∃ before first after e, items = before ++ first :: after ∧
      (∀ c ∈ before, ∃ y, (f c).Does t (.ok y) t) ∧ (f first).Does t (.error e) t ∧
      (items.mapM f).Does t (.error e) t := by
  induction items with
  | nil => cases hmem
  | cons c rest ih =>
    rw [List.mapM_cons]
    obtain ⟨result, hc⟩ := h c t
    cases result with
    | error e' => exact ⟨[], c, rest, e', rfl, nofun, hc, hc.bind_error⟩
    | ok y =>
      have hmem : b ∈ rest := by
        rcases List.mem_cons.1 hmem with rfl | hmem
        · cases (hb.unique hc).1
        · exact hmem
      obtain ⟨before, first, after, e', rfl, hbefore, hfirst, hrest⟩ := ih hmem
      refine ⟨c :: before, first, after, e', rfl, fun d hd => ?_, hfirst, hc.bind hrest.bind_error⟩
      rcases List.mem_cons.1 hd with rfl | hd
      · exact ⟨y, hc⟩
      · exact hbefore d hd

theorem reads_allLatest (store : Store α) : store.allLatest.Reads := by
  refine Action.reads_bind ?_ fun rows => Action.reads_bind (reads_mapM ?_ rows) fun latest =>
    Action.reads_pure _
  · exact Action.reads_bind (Action.reads_tables _ _) fun tables => Action.reads_pure _
  · rintro ⟨key, payload⟩
    exact Action.reads_bind (reads_decode store key payload) fun _ => Action.reads_pure _

theorem does_load (h : store.Holds t key s) : (store.load key).Does t (.ok s) t := by
  have hshows : store.Shows t key (some s) := h
  exact (does_load? hshows).bind (Action.does_pure s t)

theorem does_latest (h : store.Holds t key s) :
    (store.latest key).Does t
      (match s.latest? with
        | some x => .ok x
        | none => .error (.refused (.notFound store.name key))) t := by
  refine (does_load h).bind ?_
  cases s.latest? with
  | some x => exact Action.does_pure x t
  | none => exact Action.does_refuse _ t

theorem does_historical (h : store.Holds t key s) (limit : Option Nat) :
    (store.historical key limit).Does t
      (.ok (match limit with | none => s.newestFirst | some n => s.newest n)) t :=
  (does_load h).bind (Action.does_pure _ t)

end Store

namespace Query

theorem reads_historicalMetrics (key : String) (limit : Value) :
    (historicalMetrics key limit).Reads :=
  Action.reads_bind (Action.reads_ofChecked _) fun _ => Store.reads_historical _ _ _

theorem reads_latestRate (kind : RateKind) (denom : String) (params : Value) :
    (latestRate kind denom params).Reads :=
  Action.reads_bind (Action.reads_ofChecked _) fun _ => Store.reads_latest _ _

theorem reads_historicalRates (kind : RateKind) (denom : String) (params limit : Value) :
    (historicalRates kind denom params limit).Reads :=
  Action.reads_bind (Action.reads_ofChecked _) fun _ =>
    Action.reads_bind (Action.reads_ofChecked _) fun _ => Store.reads_historical _ _ _

section
variable {kind : RateKind} {denom : String} {t : Tables} {s : Series RateRecord}

theorem does_latestRate (h : (Store.rates kind).Holds t denom s) :
    (latestRate kind denom .null).Does t
      (match s.latest? with
        | some x => .ok x
        | none => .error (.refused (.notFound kind.label denom))) t := by
  have hlatest := Store.does_latest h
  cases hx : s.latest? with
  | some x =>
    rw [hx] at hlatest
    exact (Action.does_ofChecked (checkParams .null) t).bind hlatest
  | none =>
    rw [hx] at hlatest
    exact (Action.does_ofChecked (checkParams .null) t).bind hlatest

theorem does_historicalRates (h : (Store.rates kind).Holds t denom s) :
    (historicalRates kind denom .null .null).Does t (.ok s.newestFirst) t :=
  (Action.does_ofChecked (checkParams .null) t).bind
    ((Action.does_ofChecked (limit? .null) t).bind (Store.does_historical h none))

theorem does_historicalRates_limit (h : (Store.rates kind).Holds t denom s) (n : Nat) :
    (historicalRates kind denom .null (.integer n)).Does t (.ok (s.newestFirst.take n)) t := by
  have hlimit : limit? (.integer n) = .ok (some n) := by
    rw [limit?, if_pos (Int.natCast_nonneg n), Int.toNat_natCast]
  refine (Action.does_ofChecked (checkParams .null) t).bind ?_
  rw [hlimit]
  exact (Action.does_ofChecked _ t).bind (Store.does_historical h (some n))

end

end Query

end MetricLedger
