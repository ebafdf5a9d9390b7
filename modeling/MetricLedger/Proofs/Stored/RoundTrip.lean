import MetricLedger.Proofs.Stored.Refined

/-!
# What is read back

A metric, and a history of metrics, is read back from its stored form as it was. A history that was
read from a row of any origin is written in a form that is read, and written again, as it stands.
-/

namespace MetricLedger

open List (Forall₂)
open Json (Value)

/-! ## Metrics -/

namespace Metric

theorem toStored_injective {m other : Metric} (h : m.toStored = other.toStored) : m = other := by
  have hread := ofStored_toStored m
  rw [h, ofStored_toStored] at hread
  exact (Except.ok.inj hread).symm

theorem eq_of_same_toStored {m other : Metric} (hplain : m.IsPlain)
    (h : m.toStored.same other.toStored = true) : m = other := by
  obtain ⟨hkey, hvalue⟩ := hplain
  have halike : codec.Alike m other := .inr ⟨_, _, rfl, rfl, h⟩
  have hresembles : other.Resembles m := .of_alike halike (.refl hkey)
  cases htext : m.value with
  | text text => exact (hresembles.eq_of_text htext).symm
  | _ =>
    rw [htext] at hvalue
    cases hvalue

theorem exists_stored_series (s : Series Metric) :
    ∃ payload, s.toStored codec = .ok payload ∧ Series.ofStored codec payload = .ok s := by
  obtain ⟨payload, hstored⟩ := Series.exists_storedAs fun x (_ : x ∈ s.items) => x.settled
  exact ⟨payload, hstored.stored, hstored.ofStored⟩

/-- **Metrics are read back as they were.** So is a history of metrics, with its capacity. Two
metrics of one stored form are equal; and where key and value are texts it is enough that the forms
count as the same, however their numbers are written. -/
theorem read_back_as_stored :
    (∀ m : Metric, ofStored m.toStored = .ok m) ∧
    (∀ m other : Metric, m.toStored = other.toStored → m = other) ∧
    (∀ m other : Metric, m.IsPlain → m.toStored.same other.toStored = true → m = other) ∧
    ∀ s : Series Metric, ∃ payload, s.toStored codec = .ok payload ∧
      Series.ofStored codec payload = .ok s := by
  refine ⟨ofStored_toStored, fun m other h => ?_, fun m other hplain h => ?_, fun s => ?_⟩
  · exact toStored_injective h
  · exact eq_of_same_toStored hplain h
  · exact exists_stored_series s

end Metric

/-! ## Rows of any origin -/

theorem map_time_eq_of_forall₂ {α : Type} [Timed α] {xs ys : List α}
    (h : Forall₂ (fun x y => time y = time x) xs ys) : ys.map time = xs.map time := by
  induction h with
  | nil => rfl
  | cons hxy _ ih => rw [List.map_cons, List.map_cons, hxy, ih]

namespace Series

variable {α : Type} [Timed α] {codec : Codec α}

def reload (codec : Codec α) (payload : Value) : Except Malformed Value := do
  (← ofStored codec payload).toStored codec

def reloads (codec : Codec α) : Nat → Value → Except Malformed Value
  | 0, payload => .ok payload
  | n + 1, payload => do reloads codec n (← reload codec payload)

/-- The payload is read as the second history, which has the capacity and the times of the first
one, and the payload is what is written of it. -/
structure SettlesAs (codec : Codec α) (s s' : Series α) (payload : Value) : Prop where
  read : ofStored codec payload = .ok s'
  written : s'.toStored codec = .ok payload
  capacity : s'.capacity = s.capacity
  times : s'.items.map time = s.items.map time

theorem reload_eq_ok_iff {payload written : Value} : reload codec payload = .ok written ↔
    ∃ s, ofStored codec payload = .ok s ∧ s.toStored codec = .ok written :=
  bind_eq_ok_iff

theorem reloads_of_reload {payload : Value} (h : reload codec payload = .ok payload) (n : Nat) :
    reloads codec n payload = .ok payload := by
  induction n with
  | zero => rfl
  | succ n ih => rw [reloads, h]; exact ih

theorem SettlesAs.reloads {s s' : Series α} {payload : Value} (h : SettlesAs codec s s' payload)
    (n : Nat) : reloads codec n payload = .ok payload :=
  reloads_of_reload (reload_eq_ok_iff.2 ⟨s', h.read, h.written⟩) n

theorem exists_settlesAs {plain : α → Prop} (hsteady : codec.Steady plain) {raw payload : Value}
    {s : Series α} (hread : ofStored codec raw = .ok s) (hwritten : s.toStored codec = .ok payload) :
    ∃ s', SettlesAs codec s s' payload := by
  obtain ⟨_, ws, -, -, hdecode⟩ := ofStored_eq_ok hread
  obtain ⟨vs, hencode, rfl⟩ := toStored_eq_ok_iff.1 hwritten
  have hsettles : ∀ x ∈ s.items, ∃ y, codec.Settles x y := by
    intro x hx
    obtain ⟨w, -, hw⟩ := exists_of_mem_forall₂ hdecode.flip hx
    obtain ⟨v, -, hv⟩ := exists_of_mem_forall₂ hencode hx
    obtain ⟨v', y, hv', hy⟩ := hsteady.readable w x v hw hv
    exact ⟨y, hsteady.settles x v' y hv' hy⟩
  obtain ⟨ys, hys⟩ := exists_forall₂ hsettles
  let settled : Series α :=
    ⟨s.capacity, ys, ascending_of_forall₂ (fun _ _ h => h.1.symm) hys s.ascending⟩
  have hstored : settled.StoredAs codec (form s.capacity vs) := by
    refine ⟨fun y hy => ?_, ?_⟩
    · obtain ⟨x, -, hxy⟩ := exists_of_mem_forall₂ hys.flip hy
      exact Codec.settled_of_settles hxy
    · have hrelated : Related codec.Settles s settled := ⟨rfl, hys⟩
      rw [← hrelated.toStored_eq, hwritten]
  exact ⟨settled, hstored.ofStored, hstored.stored, rfl,
    map_time_eq_of_forall₂ (hys.imp fun _ _ h => h.1)⟩

/-- **A history settles when it is first written.** However its numbers, its bytes and its fields
were spelled in what it was read from, the form that is written of it is read again, with the
capacity and the times in order, and is written as it stands then and ever after. A history of
metrics is even read as it was. -/
theorem settles_when_written :
    (∀ raw payload (s : Series Metric), ofStored Metric.codec raw = .ok s →
      s.toStored Metric.codec = .ok payload →
      SettlesAs Metric.codec s s payload ∧
        ∀ n, reloads Metric.codec n payload = .ok payload) ∧
    ∀ kind raw payload (s : Series RateRecord), ofStored (RateRecord.codec kind) raw = .ok s →
      s.toStored (RateRecord.codec kind) = .ok payload →
      (∃ s', SettlesAs (RateRecord.codec kind) s s' payload) ∧
        ∀ n, reloads (RateRecord.codec kind) n payload = .ok payload := by
  refine ⟨fun raw payload s _ hwritten => ?_, fun kind raw payload s hread hwritten => ?_⟩
  · obtain ⟨payload', hstored, hagain⟩ := Metric.exists_stored_series s
    cases hwritten.symm.trans hstored
    have hsettles : SettlesAs Metric.codec s s payload := ⟨hagain, hwritten, rfl, rfl⟩
    exact ⟨hsettles, hsettles.reloads⟩
  · obtain ⟨s', hsettles⟩ := exists_settlesAs (RateRecord.codec_steady kind) hread hwritten
    exact ⟨⟨s', hsettles⟩, hsettles.reloads⟩

def loosely (rate : String) : Value :=
  .object [("note", .null), ("capacity", .text " +0_3 "),
    ("items", .array [.object [("purchase_rate", .text rate), ("denom", .text "d"),
      ("update_time", .text "0_7"), ("note", .bool true)]])]

example : reload (RateRecord.codec .purchase) (loosely "9.9999999999999999999999999999") =
    .ok (form 3 [RateRecord.form .purchase (.text "d") "10" 7]) := by decide +kernel

end Series

end MetricLedger
