import MetricLedger.Proofs.Results
import MetricLedger.Settings

/-!
# Settings in layers

A setting is what its flag says, or else what its variable says, or else the default. The variables
are looked at by themselves first, so one that is out of order is refused even where a flag lies
over it. One that is in order and lies under a flag does not matter.
-/

namespace MetricLedger

def Flags.none : Flags := ⟨.none, .none, .none, .none⟩

namespace Settings

def layered (flag? text? : Option String) (default : String) : String :=
  (given? flag?).getD ((given? text?).getD default)

def layeredCapacity? (flag? : Option Int) (text? : Option String) : Option Int :=
  match flag?, given? text? with
  | some n, _ => some n
  | none, some text => Integer.ofText? text
  | none, none => some defaults.capacity

def layered? (e : Environment) (f : Flags) : Option Settings :=
  (layeredCapacity? f.capacity e.capacity).map fun capacity => {
    databaseUrl := layered f.databaseUrl e.databaseUrl defaults.databaseUrl
    capacity := capacity
    logLevel := layered f.logLevel e.logLevel defaults.logLevel
    logFormat := layered f.logFormat e.logFormat defaults.logFormat }

structure InOrder (s : Settings) : Prop where
  capacity : 1 ≤ s.capacity
  level : Text.upper s.logLevel ∈ Refusal.logLevels
  format : Text.lower s.logFormat ∈ Refusal.logFormats

def normal (s : Settings) : Settings :=
  { s with logLevel := Text.upper s.logLevel, logFormat := Text.lower s.logFormat }

def SameOr {α : Type} (P : α → Prop) (x y : α) : Prop := x = y ∨ P x ∧ P y

section
variable {α : Type} {P : α → Prop} {x y : α}

theorem SameOr.symm (h : SameOr P x y) : SameOr P y x := h.imp Eq.symm And.symm

theorem SameOr.map {β : Type} {Q : β → Prop} {g : α → β} (h : SameOr P x y)
    (hg : ∀ x, P x → Q (g x)) : SameOr Q (g x) (g y) := by
  rcases h with rfl | ⟨hx, hy⟩
  · exact .inl rfl
  · exact .inr ⟨hg x hx, hg y hy⟩

theorem SameOr.imp (h : SameOr P x y) (hx : P x) : P y := by
  rcases h with rfl | ⟨-, hy⟩
  · exact hx
  · exact hy

theorem SameOr.eq_of_not (h : SameOr P x y) (hx : ¬P x) : x = y := by
  rcases h with heq | ⟨hx', -⟩
  · exact heq
  · exact absurd hx' hx

end

/-- Two environments differ at most in variables that lie under a flag and are in order. -/
structure SameButCovered (f : Flags) (e e' : Environment) : Prop where
  databaseUrl : SameOr (fun _ => given? f.databaseUrl ≠ none) e.databaseUrl e'.databaseUrl
  capacity : SameOr
    (fun text? => f.capacity ≠ none ∧ ∃ n, layeredCapacity? none text? = some n ∧ 1 ≤ n)
    e.capacity e'.capacity
  logLevel : SameOr
    (fun text? => given? f.logLevel ≠ none ∧
      Text.upper (layered none text? defaults.logLevel) ∈ Refusal.logLevels)
    e.logLevel e'.logLevel
  logFormat : SameOr
    (fun text? => given? f.logFormat ≠ none ∧
      Text.lower (layered none text? defaults.logFormat) ∈ Refusal.logFormats)
    e.logFormat e'.logFormat

theorem SameButCovered.symm {f : Flags} {e e' : Environment} (h : SameButCovered f e e') :
    SameButCovered f e' e :=
  ⟨h.databaseUrl.symm, h.capacity.symm, h.logLevel.symm, h.logFormat.symm⟩

/-! ## One check -/

section
variable {s t : Settings} {r : Refusal}

theorem check_eq_ok_iff : check s = .ok t ↔ s.InOrder ∧ s.normal = t := by
  unfold check
  by_cases hcapacity : s.capacity < 1
  · have : ¬s.InOrder := fun h => by have := h.capacity; omega
    simp [hcapacity, this]
  · by_cases hlevel : Text.upper s.logLevel ∈ Refusal.logLevels
    · by_cases hformat : Text.lower s.logFormat ∈ Refusal.logFormats
      · have : s.InOrder := ⟨by omega, hlevel, hformat⟩
        simp [hcapacity, hlevel, hformat, this, normal]
      · have : ¬s.InOrder := fun h => hformat h.format
        simp [hcapacity, hlevel, hformat, this]
    · have : ¬s.InOrder := fun h => hlevel h.level
      simp [hcapacity, hlevel, this]

theorem check_eq_error_iff : check s = .error r ↔
    (¬1 ≤ s.capacity ∧ .smallCapacity s.capacity = r) ∨
    (1 ≤ s.capacity ∧ Text.upper s.logLevel ∉ Refusal.logLevels ∧
      .unknownLevel (Text.upper s.logLevel) = r) ∨
    (1 ≤ s.capacity ∧ Text.upper s.logLevel ∈ Refusal.logLevels ∧
      Text.lower s.logFormat ∉ Refusal.logFormats ∧
        .unknownFormat (Text.lower s.logFormat) = r) := by
  unfold check
  by_cases hcapacity : s.capacity < 1
  · have : ¬1 ≤ s.capacity := by omega
    simp [hcapacity, this]
  · have : 1 ≤ s.capacity := by omega
    by_cases hlevel : Text.upper s.logLevel ∈ Refusal.logLevels
    · by_cases hformat : Text.lower s.logFormat ∈ Refusal.logFormats
      · simp [hcapacity, this, hlevel, hformat]
      · simp [hcapacity, this, hlevel, hformat]
    · simp [hcapacity, this, hlevel]

theorem category_of_check (h : check s = .error r) : r.report.category = .configuration := by
  rcases check_eq_error_iff.1 h with ⟨-, rfl⟩ | ⟨-, -, rfl⟩ | ⟨-, -, -, rfl⟩ <;> rfl

/-- The first field with something wrong in it is the same in both, and so is what it says. -/
theorem check_eq_error_of_sameOr (hcapacity : SameOr (fun n => 1 ≤ n) s.capacity t.capacity)
    (hlevel : SameOr (fun level => Text.upper level ∈ Refusal.logLevels) s.logLevel t.logLevel)
    (hformat : SameOr (fun format => Text.lower format ∈ Refusal.logFormats) s.logFormat
      t.logFormat) (h : check s = .error r) : check t = .error r := by
  rw [check_eq_error_iff] at h ⊢
  rcases h with ⟨hn, hr⟩ | ⟨hn, hl, hr⟩ | ⟨hn, hl, hf, hr⟩
  · rw [← hcapacity.eq_of_not hn]
    exact .inl ⟨hn, hr⟩
  · rw [← hlevel.eq_of_not hl]
    exact .inr (.inl ⟨hcapacity.imp hn, hl, hr⟩)
  · rw [← hformat.eq_of_not hf]
    exact .inr (.inr ⟨hcapacity.imp hn, hlevel.imp hl, hf, hr⟩)

theorem upper_of_mem_logLevels : ∀ l ∈ Refusal.logLevels, Text.upper l = l := by decide

theorem lower_of_mem_logFormats : ∀ f ∈ Refusal.logFormats, Text.lower f = f := by decide

/-- A second check changes nothing, so it is the same whether the first one has put the settings
into their normal form or not. -/
theorem check_overlay_normal (h : s.InOrder) (f : Flags) :
    check (s.normal.overlay f) = check (s.overlay f) := by
  have hlevel : Text.upper (s.normal.overlay f).logLevel = Text.upper (s.overlay f).logLevel := by
    unfold overlay
    cases given? f.logLevel with
    | none => exact upper_of_mem_logLevels _ h.level
    | some level => rfl
  have hformat :
      Text.lower (s.normal.overlay f).logFormat = Text.lower (s.overlay f).logFormat := by
    unfold overlay
    cases given? f.logFormat with
    | none => exact lower_of_mem_logFormats _ h.format
    | some format => rfl
  unfold check
  rw [hlevel, hformat]
  rfl

end

/-! ## Both checks -/

section
variable {e e' : Environment} {f : Flags} {s t : Settings} {r : Refusal}

theorem capacityOf_eq_ok_iff {text? : Option String} {n : Int} :
    capacityOf text? = .ok n ↔ layeredCapacity? none text? = some n := by
  unfold capacityOf layeredCapacity?
  cases given? text? with
  | none => simp
  | some text => cases hn : Integer.ofText? text <;> simp [hn]

theorem ofEnvironment_eq_ok_iff : ofEnvironment e = .ok t ↔
    ∃ s, layered? e .none = some s ∧ s.InOrder ∧ s.normal = t := by
  unfold ofEnvironment layered?
  simp only [bind_eq_ok_iff, capacityOf_eq_ok_iff, check_eq_ok_iff, Option.map_eq_some_iff]
  constructor
  · intro ⟨n, hn, hcheck⟩
    exact ⟨_, ⟨n, hn, rfl⟩, hcheck⟩
  · intro ⟨_, ⟨n, hn, rfl⟩, hcheck⟩
    exact ⟨n, hn, hcheck⟩

theorem category_of_ofEnvironment (h : ofEnvironment e = .error r) :
    r.report.category = .configuration := by
  unfold ofEnvironment at h
  rcases bind_eq_error_iff.1 h with h | ⟨n, -, h⟩
  · unfold capacityOf at h
    split at h
    · cases h
    · split at h
      · cases h
      · cases h; rfl
  · exact category_of_check h

theorem layered?_overlay (h : layered? e .none = some s) (f : Flags) :
    layered? e f = some (s.overlay f) := by
  obtain ⟨n, hn, rfl⟩ := Option.map_eq_some_iff.1 h
  have hcapacity : layeredCapacity? f.capacity e.capacity = some (f.capacity.getD n) := by
    cases hf : f.capacity with
    | none => exact hn
    | some m => rfl
  unfold layered?
  rw [hcapacity]
  rfl

theorem build_eq_check (h : layered? e .none = some s) (hs : s.InOrder) (f : Flags) :
    build e f = check (s.overlay f) := by
  have he : ofEnvironment e = .ok s.normal := ofEnvironment_eq_ok_iff.2 ⟨s, h, hs, rfl⟩
  rw [← check_overlay_normal hs, build, he]
  rfl

theorem build_eq_ok_iff : build e f = .ok t ↔
    (∃ s, layered? e .none = some s ∧ s.InOrder) ∧
      ∃ s, layered? e f = some s ∧ s.InOrder ∧ s.normal = t := by
  constructor
  · intro h
    obtain ⟨own, hown, -⟩ := bind_eq_ok_iff.1 h
    obtain ⟨s, hs, horder, -⟩ := ofEnvironment_eq_ok_iff.1 hown
    rw [build_eq_check hs horder, check_eq_ok_iff] at h
    exact ⟨⟨s, hs, horder⟩, s.overlay f, layered?_overlay hs f, h⟩
  · intro ⟨⟨s, hs, horder⟩, u, hu, hcheck⟩
    rw [layered?_overlay hs f, Option.some.injEq] at hu
    rw [build_eq_check hs horder, hu, check_eq_ok_iff]
    exact hcheck

theorem category_of_build (h : build e f = .error r) : r.report.category = .configuration := by
  rcases bind_eq_error_iff.1 h with h | ⟨s, -, h⟩
  · exact category_of_ofEnvironment h
  · exact category_of_check h

theorem layered_of_given {flag? : Option String} (h : given? flag? ≠ none)
    (text? text'? : Option String) (standard : String) :
    layered flag? text? standard = layered flag? text'? standard := by
  obtain ⟨flag, hflag⟩ := Option.ne_none_iff_exists'.1 h
  rw [layered, layered, hflag]
  rfl

theorem SameButCovered.layered?_eq (h : SameButCovered f e e') : layered? e f = layered? e' f := by
  have htext : ∀ {P : Option String → Prop} {flag? text? text'? : Option String},
      SameOr P text? text'? → (∀ text?, P text? → given? flag? ≠ none) → ∀ standard,
        layered flag? text? standard = layered flag? text'? standard := by
    intro P flag? text? text'? hsame hP standard
    rcases hsame with rfl | ⟨hx, -⟩
    · rfl
    · exact layered_of_given (hP _ hx) _ _ standard
  have hcapacity : layeredCapacity? f.capacity e.capacity =
      layeredCapacity? f.capacity e'.capacity := by
    rcases h.capacity with heq | ⟨⟨hf, -⟩, -⟩
    · rw [heq]
    · obtain ⟨n, hn⟩ := Option.ne_none_iff_exists'.1 hf
      rw [hn]
      rfl
  unfold layered?
  rw [hcapacity, htext h.databaseUrl fun _ h => h, htext h.logLevel fun _ h => h.1,
    htext h.logFormat fun _ h => h.1]

theorem SameButCovered.ofEnvironment_eq_error (h : SameButCovered f e e')
    (hr : ofEnvironment e = .error r) : ofEnvironment e' = .error r := by
  rcases bind_eq_error_iff.1 hr with hn | ⟨n, hn, hr⟩
  · have heq : e.capacity = e'.capacity := by
      apply h.capacity.eq_of_not
      rintro ⟨-, n, hn', -⟩
      have := hn.symm.trans (capacityOf_eq_ok_iff.2 hn')
      cases this
    rw [heq] at hn
    exact bind_eq_error_iff.2 (.inl hn)
  · obtain ⟨m, hm, hcapacity⟩ : ∃ m, capacityOf e'.capacity = .ok m ∧
        SameOr (fun n => 1 ≤ n) n m := by
      rcases h.capacity with heq | ⟨⟨-, n', hn', hle⟩, -, m, hm, hle'⟩
      · exact ⟨n, heq ▸ hn, .inl rfl⟩
      · cases hn.symm.trans (capacityOf_eq_ok_iff.2 hn')
        exact ⟨m, capacityOf_eq_ok_iff.2 hm, .inr ⟨hle, hle'⟩⟩
    have hlevel := h.logLevel.map (Q := fun level => Text.upper level ∈ Refusal.logLevels)
      (g := (layered none · defaults.logLevel)) fun _ h => h.2
    have hformat := h.logFormat.map (Q := fun format => Text.lower format ∈ Refusal.logFormats)
      (g := (layered none · defaults.logFormat)) fun _ h => h.2
    exact bind_eq_error_iff.2 (.inr ⟨m, hm, check_eq_error_of_sameOr hcapacity hlevel hformat hr⟩)

theorem SameButCovered.build_eq (h : SameButCovered f e e') : build e f = build e' f := by
  cases hown : ofEnvironment e with
  | error r => rw [build, hown, build, h.ofEnvironment_eq_error hown]
  | ok own =>
    cases hown' : ofEnvironment e' with
    | error r =>
      have := hown.symm.trans (h.symm.ofEnvironment_eq_error hown')
      cases this
    | ok own' =>
      obtain ⟨s, hs, horder, -⟩ := ofEnvironment_eq_ok_iff.1 hown
      obtain ⟨t, ht, horder', -⟩ := ofEnvironment_eq_ok_iff.1 hown'
      have hsame := h.layered?_eq
      rw [layered?_overlay hs f, layered?_overlay ht f, Option.some.injEq] at hsame
      rw [build_eq_check hs horder, build_eq_check ht horder', hsame]

end

/-- **Flags over variables.** What is built are the layered settings in their normal form, and they
are refused just when they are out of order or the variables are so by themselves. A variable that
is in order and lies under a flag might as well be another one that is in order, or none. -/
theorem build_layers (e : Environment) (f : Flags) :
    (∀ t, build e f = .ok t ↔
      (∃ s, layered? e .none = some s ∧ s.InOrder) ∧
        ∃ s, layered? e f = some s ∧ s.InOrder ∧ s.normal = t) ∧
    ((∃ r, build e f = .error r ∧ r.report.category = .configuration) ↔
      (¬∃ s, layered? e .none = some s ∧ s.InOrder) ∨ ¬∃ s, layered? e f = some s ∧ s.InOrder) ∧
    ∀ e', SameButCovered f e e' → build e f = build e' f := by
  refine ⟨fun t => build_eq_ok_iff, ?_, fun e' h => h.build_eq⟩
  rw [← not_and_or]
  constructor
  · intro ⟨r, hr, _⟩ ⟨he, s, hs, horder⟩
    have hok := build_eq_ok_iff.2 ⟨he, s, hs, horder, rfl⟩
    rw [hr] at hok
    cases hok
  · intro h
    cases hb : build e f with
    | error r => exact ⟨r, rfl, category_of_build hb⟩
    | ok t =>
      obtain ⟨he, s, hs, horder, -⟩ := build_eq_ok_iff.1 hb
      exact absurd ⟨he, s, hs, horder⟩ h

/-- The flag gives a capacity that is in order, but the variable under it is refused. -/
theorem coveredVariable_refused :
    layered? ⟨none, some "lots", none, none⟩ ⟨none, some 5, none, none⟩ =
      some ⟨"sqlite:///oracle_ledger.db", 5, "INFO", "text"⟩ ∧
    InOrder ⟨"sqlite:///oracle_ledger.db", 5, "INFO", "text"⟩ ∧
    build ⟨none, some "lots", none, none⟩ ⟨none, some 5, none, none⟩ =
      .error (.unreadCapacity "lots") :=
  ⟨by decide, ⟨by decide, by decide, by decide⟩, by decide⟩

end Settings

end MetricLedger
