import MetricLedger.Storage.History

/-!
# Actions on tables

What an action does with the tables that its session sees, put together from what its steps do, and
what it leaves as it was. On a database that can be written to, a transaction does the same.
-/

namespace MetricLedger.Storage

open Json (Entries Value)

def View.ofTables (t : Tables) : View := ⟨some t, [], true, false⟩

def Database.ofTables (t : Tables) : Database := ⟨some t, false⟩

/-- Started on the tables `t`, the action gives that result and leaves `t'`. -/
def Action.Does {α : Type} (action : Action α) (t : Tables) (result : Except Failure α)
    (t' : Tables) : Prop :=
  action.run (View.ofTables t) = (result, View.ofTables t')

namespace Action

variable {α β : Type} {t t' t'' : Tables}

theorem does_pure (x : α) (t : Tables) : (pure x : Action α).Does t (.ok x) t := rfl

theorem does_throw (e : Failure) (t : Tables) : (throw e : Action α).Does t (.error e) t := rfl

theorem does_fail (error : StorageError) (t : Tables) :
    (fail error : Action α).Does t (.error (.storage error)) t := rfl

theorem does_refuse (refusal : Refusal) (t : Tables) :
    (refuse refusal : Action α).Does t (.error (.refused refusal)) t := rfl

theorem Does.unique {action : Action α} {result result' : Except Failure α}
    (h : action.Does t result t') (h' : action.Does t result' t'') : result = result' ∧ t' = t'' := by
  have heq : (result, View.ofTables t') = (result', View.ofTables t'') := Eq.trans (Eq.symm h) h'
  obtain ⟨hresult, hview⟩ := Prod.mk.inj heq
  exact ⟨hresult, Option.some.inj (congrArg View.tables? hview)⟩

theorem Does.bind {x : Action α} {f : α → Action β} {a : α} {result : Except Failure β}
    (h : x.Does t (.ok a) t') (h' : (f a).Does t' result t'') : (x >>= f).Does t result t'' := by
  unfold Does at *
  rw [← h']
  change (ExceptT.bindCont f (x.run (View.ofTables t)).1).run (x.run (View.ofTables t)).2 = _
  rw [h]
  rfl

theorem Does.bind_error {x : Action α} {f : α → Action β} {e : Failure}
    (h : x.Does t (.error e) t') : (x >>= f).Does t (.error e) t' := by
  unfold Does at *
  change (ExceptT.bindCont f (x.run (View.ofTables t)).1).run (x.run (View.ofTables t)).2 = _
  rw [h]
  rfl

theorem does_tables (repository operation : String) (t : Tables) :
    (tables repository operation).Does t (.ok t) t := rfl

theorem does_write (repository operation : String) (t t' : Tables) :
    (write repository operation t').Does t (.ok ()) t' := rfl

theorem does_ofExcept (x : Except Malformed α) (t : Tables) :
    (ofExcept x).Does t (x.mapError .malformed) t := by
  cases x <;> rfl

theorem does_ofResult (x : Except Failure α) (t : Tables) : (ofResult x).Does t x t := by
  cases x <;> rfl

theorem does_ofChecked (x : Except Refusal α) (t : Tables) :
    (ofChecked x).Does t (x.mapError .refused) t := by
  cases x <;> rfl

def Reads (action : Action α) : Prop := ∀ t, ∃ result, action.Does t result t

theorem reads_bind {x : Action α} {f : α → Action β} (h : x.Reads) (h' : ∀ a, (f a).Reads) :
    (x >>= f).Reads := by
  intro t
  obtain ⟨result, hx⟩ := h t
  cases result with
  | error e => exact ⟨_, hx.bind_error⟩
  | ok a =>
    obtain ⟨result', hf⟩ := h' a t
    exact ⟨_, hx.bind hf⟩

theorem reads_pure (x : α) : (pure x : Action α).Reads := fun t => ⟨_, does_pure x t⟩

theorem reads_refuse (refusal : Refusal) : (refuse refusal : Action α).Reads := fun t =>
  ⟨_, does_refuse refusal t⟩

theorem reads_tables (repository operation : String) : (tables repository operation).Reads :=
  fun t => ⟨_, does_tables repository operation t⟩

theorem reads_ofExcept (x : Except Malformed α) : (ofExcept x).Reads := fun t =>
  ⟨_, does_ofExcept x t⟩

theorem reads_ofChecked (x : Except Refusal α) : (ofChecked x).Reads := fun t =>
  ⟨_, does_ofChecked x t⟩

def Keeps (action : Action α) (P : Tables → Prop) : Prop :=
  ∀ t, P t → ∃ result t', action.Does t result t' ∧ P t'

section
variable {P : Tables → Prop}

theorem Reads.keeps {action : Action α} (h : action.Reads) : action.Keeps P := by
  intro t ht
  obtain ⟨result, hdoes⟩ := h t
  exact ⟨result, t, hdoes, ht⟩

theorem keeps_bind {x : Action α} {f : α → Action β} (h : x.Keeps P) (h' : ∀ a, (f a).Keeps P) :
    (x >>= f).Keeps P := by
  intro t ht
  obtain ⟨result, t', hx, ht'⟩ := h t ht
  cases result with
  | error e => exact ⟨_, t', hx.bind_error, ht'⟩
  | ok a =>
    obtain ⟨result', t'', hf, ht''⟩ := h' a t' ht'
    exact ⟨result', t'', hx.bind hf, ht''⟩

/-- Nothing but `f a` is done if the first action gives `a` and changes nothing. -/
theorem Keeps.after {x : Action α} {f : α → Action β} {a : α} (hf : (f a).Keeps P)
    (hx : ∀ t, x.Does t (.ok a) t) : (x >>= f).Keeps P := by
  intro t ht
  obtain ⟨result, t', hdoes, ht'⟩ := hf t ht
  exact ⟨result, t', (hx t).bind hdoes, ht'⟩

theorem keeps_of_error {x : Action α} {f : α → Action β} {e : Failure}
    (hx : ∀ t, x.Does t (.error e) t) : (x >>= f).Keeps P := by
  intro t ht
  exact ⟨_, t, (hx t).bind_error, ht⟩

theorem keeps_write (repository operation : String) {t' : Tables} (h : P t') :
    (write repository operation t').Keeps P := by
  intro t _
  exact ⟨_, t', does_write repository operation t t', h⟩

end

end Action

/-! ## Transactions -/

theorem Session.begin_ofTables (t : Tables) :
    begin (Database.ofTables t) = ⟨.ofTables t, .ofTables t⟩ := rfl

theorem Session.perform_of_does {α : Type} {action : Action α} {t t' : Tables}
    {result : Except Failure α} (h : action.Does t result t') (db : Database) :
    perform ⟨db, .ofTables t⟩ action = (result, ⟨db, .ofTables t'⟩) := by
  unfold perform
  rw [show action.run (View.ofTables t) = (result, View.ofTables t') from h]

namespace Database

variable {α : Type} {t t' : Tables} {action : Action α}

theorem transaction_of_does_ok {x : α} (h : action.Does t (.ok x) t') :
    (ofTables t).transaction action = (.ok x, ofTables t') := by
  unfold transaction Session.perform
  change (Session.finish ⟨ofTables t, (action.run (View.ofTables t)).2⟩
    (action.run (View.ofTables t)).1) = _
  rw [h]
  rfl

theorem transaction_of_does_error {e : Failure} (h : action.Does t (.error e) t') :
    (ofTables t).transaction action = (.error e, ofTables t) := by
  unfold transaction Session.perform
  change (Session.finish ⟨ofTables t, (action.run (View.ofTables t)).2⟩
    (action.run (View.ofTables t)).1) = _
  rw [h]
  rfl

end Database

end MetricLedger.Storage
