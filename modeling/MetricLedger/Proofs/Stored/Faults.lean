import MetricLedger.RateRecord
import MetricLedger.Proofs.Results
import MetricLedger.Proofs.Stored.Same

/-!
# Faults of stored histories

What a value is missing if no history can be read from it. Nearly every fault makes its row
unreadable. The other one is a number without bounds, and then there is such a number among the
parts that are converted: an endless one for a capacity, a time or a height, or one of more than 64
bits in a triple that stands for a decimal.
-/

namespace MetricLedger

open Json (Value)

/-- The fault makes a row unreadable, or stands for a number without bounds, which there is then. -/
def Malformed.Explained (fault : Malformed) (isThere : Prop) : Prop :=
  fault.isUnreadable = true ∨ fault = .unbounded ∧ isThere

theorem Malformed.Explained.imp {fault : Malformed} {p q : Prop} (h : fault.Explained p)
    (hpq : p → q) : fault.Explained q :=
  Or.imp_right (And.imp_right hpq) h

namespace Json.Value

def isEndless : Value → Bool
  | .real (.infinite _) => true
  | _ => false

def isLong : Value → Bool
  | .integer n => n < -0x8000000000000000 || 0x7fffffffffffffff < n
  | _ => false

section
variable {v w : Value} {fault : Malformed}

theorem isUnreadable_of_field {name : String} (h : v.field name = .error fault) :
    fault.isUnreadable = true := by
  cases v with
  | object members =>
    simp only [field] at h
    split at h
    · cases h
    · cases h
      rfl
  | _ =>
    cases h
    rfl

theorem isUnreadable_of_elements (h : v.elements = .error fault) : fault.isUnreadable = true := by
  cases v with
  | array items => cases h
  | object members => cases h
  | text s => cases h
  | _ =>
    cases h
    rfl

theorem explained_of_toInteger (h : v.toInteger = .error fault) :
    fault.Explained (v.isEndless = true) := by
  cases v with
  | integer n => cases h
  | bool b => cases h
  | real x =>
    cases x with
    | finite negative mantissa exponent => cases h
    | infinite negative =>
      cases h
      exact .inr ⟨rfl, rfl⟩
    | nan =>
      cases h
      exact .inl rfl
  | text s =>
    simp only [toInteger] at h
    split at h
    · cases h
    · cases h
      exact .inl rfl
  | _ =>
    cases h
    exact .inl rfl

end

end Json.Value

/-! ## Decimals -/

namespace Decimal

variable {v : Value} {fault : Malformed}

/-- A triple with a long integer for its sign, its exponent or one of its digits. -/
def HasLong (v : Value) : Prop :=
  ∃ sign digits exponent, v = .array [sign, digits, exponent] ∧
    (sign.isLong = true ∨ exponent.isLong = true ∨
      ∃ items digit, digits = .array items ∧ digit ∈ items ∧ digit.isLong = true)

theorem explained_of_digitOf (h : digitOf v = .error fault) :
    fault.Explained (v.isLong = true) := by
  cases v with
  | bool b => cases h
  | integer n =>
    simp only [digitOf] at h
    split at h
    · rename_i hlong
      cases h
      exact .inr ⟨rfl, by simpa [Value.isLong] using hlong⟩
    · split at h
      · cases h
      · cases h
        exact .inl rfl
  | _ =>
    cases h
    exact .inl rfl

theorem explained_of_exponentOf (h : exponentOf v = .error fault) :
    fault.Explained (v.isLong = true) := by
  unfold exponentOf at h
  split at h
  · cases h
  · split at h
    · rename_i hlong
      cases h
      exact .inr ⟨rfl, by simpa [Value.isLong] using hlong⟩
    · cases h
  · cases h
  · cases h
  · cases h
  · cases h
    exact .inl rfl

theorem explained_of_ofTriple {whole sign digits exponent : Value}
    (h : ofTriple whole sign digits exponent = .error fault) :
    fault.Explained (HasLong (.array [sign, digits, exponent])) := by
  simp only [ofTriple, bind_eq_error_iff] at h
  rcases h with h | ⟨_, -, h⟩
  · exact (explained_of_digitOf h).imp fun hlong => ⟨_, _, _, rfl, .inl hlong⟩
  · split at h
    · cases h
      exact .inl rfl
    · rcases bind_eq_error_iff.1 h with h | ⟨_, -, h⟩
      · exact (explained_of_exponentOf h).imp fun hlong => ⟨_, _, _, rfl, .inr (.inl hlong)⟩
      · split at h
        · rcases bind_eq_error_iff.1 h with h | ⟨_, -, h⟩
          · obtain ⟨digit, hdigit, h⟩ := exists_of_mapM_eq_error h
            exact (explained_of_digitOf h).imp fun hlong =>
              ⟨_, _, _, rfl, .inr (.inr ⟨_, digit, rfl, hdigit, hlong⟩)⟩
          · split at h
            · cases h
            · cases h
            · split at h
              · cases h
              · cases h
                exact .inl rfl
        · cases h
          exact .inl rfl

theorem explained_of_ofValue (h : ofValue v = .error fault) : fault.Explained (HasLong v) := by
  unfold ofValue at h
  split at h
  · cases h
  · cases h
  · cases h
  · split at h
    · cases h
    · cases h
      exact .inl rfl
  · exact explained_of_ofTriple h
  · cases h
    exact .inl rfl
  · cases h
    exact .inl rfl

end Decimal

/-! ## Items -/

open Json.Value (explained_of_toInteger isUnreadable_of_field)

variable {v : Value} {fault : Malformed}

theorem MetricType.isUnreadable_of_ofParts {kind? : Option RateKind} {name : Value}
    (h : ofParts kind? name = .error fault) : fault.isUnreadable = true := by
  unfold ofParts at h
  split at h
  · cases h
  · cases h
    rfl
  · cases h
  · cases h
    rfl

theorem MetricType.isUnreadable_of_ofStored (h : ofStored v = .error fault) :
    fault.isUnreadable = true := by
  unfold ofStored at h
  split at h
  · split at h
    · exact isUnreadable_of_ofParts h
    · cases h
      rfl
  · split at h
    · cases h
    · cases h
      rfl
  · cases h
    rfl

theorem Payload.isUnreadable_of_ofText {s : String} (h : ofText s = .error fault) :
    fault.isUnreadable = true := by
  unfold ofText at h
  split at h
  · cases h
    rfl
  · split at h
    · cases h
    · cases h
      rfl

theorem Payload.isUnreadable_of_ofStored (h : ofStored v = .error fault) :
    fault.isUnreadable = true := by
  cases v with
  | null => cases h
  | text s =>
    cases hpayload : ofText s with
    | ok payload => simp [ofStored, hpayload, Except.map] at h
    | error found =>
      simp only [ofStored, hpayload, Except.map, Except.error.injEq] at h
      rw [← h]
      exact isUnreadable_of_ofText hpayload
  | _ =>
    cases h
    rfl

def Metric.IsUnbounded (v : Value) : Prop :=
  ∃ name part, (name = "update_time" ∨ name = "block_height") ∧ v.field name = .ok part ∧
    part.isEndless = true

theorem Metric.explained_of_ofStored (h : ofStored v = .error fault) :
    fault.Explained (IsUnbounded v) := by
  simp only [ofStored, bind_eq_error_iff] at h
  rcases h with h | ⟨key, -, h⟩
  · exact .inl (isUnreadable_of_field h)
  rcases h with h | ⟨value, -, h⟩
  · exact .inl (isUnreadable_of_field h)
  rcases h with h | ⟨type, htype, h⟩
  · exact .inl (isUnreadable_of_field h)
  rcases h with h | ⟨type, -, h⟩
  · exact .inl (MetricType.isUnreadable_of_ofStored h)
  rcases h with h | ⟨time, htime, h⟩
  · exact .inl (isUnreadable_of_field h)
  rcases h with h | ⟨_, -, h⟩
  · exact (explained_of_toInteger h).imp fun hendless =>
      ⟨_, time, .inl rfl, htime, hendless⟩
  rcases h with h | ⟨height, hheight, h⟩
  · exact .inl (isUnreadable_of_field h)
  rcases h with h | ⟨_, -, h⟩
  · exact (explained_of_toInteger h).imp fun hendless =>
      ⟨_, height, .inr rfl, hheight, hendless⟩
  rcases h with h | ⟨attributes, -, h⟩
  · exact .inl (Payload.isUnreadable_of_ofStored h)
  · cases h

def RateRecord.IsUnbounded (kind : RateKind) (v : Value) : Prop :=
  (∃ rate, v.field kind.label = .ok rate ∧ Decimal.HasLong rate) ∨
    ∃ time, v.field "update_time" = .ok time ∧ time.isEndless = true

theorem RateRecord.explained_of_ofStored {kind : RateKind} (h : ofStored kind v = .error fault) :
    fault.Explained (IsUnbounded kind v) := by
  simp only [ofStored, bind_eq_error_iff] at h
  rcases h with h | ⟨rate, hrate, h⟩
  · exact .inl (isUnreadable_of_field h)
  rcases h with h | ⟨_, -, h⟩
  · exact (Decimal.explained_of_ofValue h).imp fun hlong => .inl ⟨rate, hrate, hlong⟩
  rcases h with h | ⟨denom, -, h⟩
  · exact .inl (isUnreadable_of_field h)
  rcases h with h | ⟨time, htime, h⟩
  · exact .inl (isUnreadable_of_field h)
  rcases h with h | ⟨_, -, h⟩
  · exact (explained_of_toInteger h).imp fun hendless => .inr ⟨time, htime, hendless⟩
  · cases h

/-! ## Histories -/

def Codec.Explains {α : Type} (codec : Codec α) (isUnbounded : Value → Prop) : Prop :=
  ∀ v fault, codec.decode v = .error fault → fault.Explained (isUnbounded v)

def Series.IsUnbounded (isUnbounded : Value → Prop) (v : Value) : Prop :=
  (∃ capacity, v.field "capacity" = .ok capacity ∧ capacity.isEndless = true) ∨
    ∃ items elements element, v.field "items" = .ok items ∧ items.elements = .ok elements ∧
      element ∈ elements ∧ isUnbounded element

theorem Series.explained_of_ofStored {α : Type} [Timed α] {codec : Codec α}
    {isUnbounded : Value → Prop} (hcodec : codec.Explains isUnbounded)
    (h : ofStored codec v = .error fault) : fault.Explained (IsUnbounded isUnbounded v) := by
  simp only [ofStored, bind_eq_error_iff] at h
  rcases h with h | ⟨items, hitems, h⟩
  · exact .inl (isUnreadable_of_field h)
  rcases h with h | ⟨elements, helements, h⟩
  · exact .inl (Value.isUnreadable_of_elements h)
  rcases h with h | ⟨_, -, h⟩
  · obtain ⟨element, hmem, h⟩ := exists_of_mapM_eq_error h
    exact (hcodec element fault h).imp fun helement =>
      .inr ⟨items, elements, element, hitems, helements, hmem, helement⟩
  split at h
  · simp only [bind_eq_error_iff] at h
    rcases h with h | ⟨capacity, hcapacity, h⟩
    · exact .inl (isUnreadable_of_field h)
    rcases h with h | ⟨_, -, h⟩
    · exact (explained_of_toInteger h).imp fun hendless => .inl ⟨capacity, hcapacity, hendless⟩
    · cases h
  · cases h
    exact .inl rfl

theorem Metric.codec_explains : codec.Explains IsUnbounded := fun _ _ => explained_of_ofStored

theorem RateRecord.codec_explains (kind : RateKind) : (codec kind).Explains (IsUnbounded kind) :=
  fun _ _ => explained_of_ofStored

end MetricLedger
