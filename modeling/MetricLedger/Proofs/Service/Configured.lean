import MetricLedger.Proofs.Service.Runs
import MetricLedger.Proofs.Service.Versions

/-!
# The configuration of a ledger

It is recorded once. From then on nothing but its version changes, and this by a migration only, to
a later version. A call that fails changes nothing, and what is recorded of the configuration never
touches a history.
-/

namespace MetricLedger

open Storage (ConfigRow Database Tables)

/-! ## What can be recorded -/

def NamesChannel (text : String) : Prop :=
  ∃ digits, text.toList = "channel-".toList ++ digits ∧ digits ≠ [] ∧
    ∀ c ∈ digits, c.isDigit = true

theorem isChannel_iff {text : String} : isChannel text = true ↔ NamesChannel text := by
  simp only [isChannel, Bool.and_eq_true, Bool.not_eq_true', List.isEmpty_eq_false_iff,
    List.all_eq_true]
  constructor
  · rintro ⟨⟨hword, hne⟩, hdigits⟩
    obtain ⟨digits, hdigits'⟩ := List.isPrefixOf_iff_prefix.1 hword
    rw [← hdigits', List.drop_left] at hne hdigits
    exact ⟨digits, hdigits'.symm, hne, hdigits⟩
  · rintro ⟨digits, htext, hne, hdigits⟩
    rw [htext, List.drop_left]
    exact ⟨⟨List.isPrefixOf_iff_prefix.2 (List.prefix_append _ _), hne⟩, hdigits⟩

structure LedgerConfig.Valid (c : LedgerConfig) : Prop where
  admin : c.admin ≠ ""
  channel : ∀ channel, c.channel = some channel → NamesChannel channel

theorem LedgerConfig.check_eq_ok_iff {c : LedgerConfig} : c.check = .ok () ↔ c.Valid := by
  obtain ⟨admin, channel?⟩ := c
  by_cases hadmin : admin = ""
  · simp only [check, if_pos hadmin]
    exact ⟨nofun, fun h => absurd hadmin h.admin⟩
  · simp only [check, if_neg hadmin]
    cases channel? with
    | none => exact ⟨fun _ => ⟨hadmin, nofun⟩, fun _ => rfl⟩
    | some channel =>
      by_cases hchannel : isChannel channel = true
      · simp only [checkChannel, if_pos hchannel]
        refine ⟨fun _ => ⟨hadmin, fun channel' h => ?_⟩, fun _ => trivial⟩
        cases h
        exact isChannel_iff.1 hchannel
      · simp only [checkChannel, if_neg hchannel]
        exact ⟨nofun, fun h => absurd (isChannel_iff.2 (h.channel channel rfl)) hchannel⟩

namespace Service

variable {t : Tables} {row : ConfigRow} {config : LedgerConfig}

theorem instantiate_of_check_error (s : Service) {refusal : Refusal}
    (h : config.check = .error refusal) (db : Database) :
    s.instantiate config db = (.error (.refused refusal), db) := by
  unfold instantiate
  rw [h]

theorem instantiate_of_row (s : Service) (hcheck : config.check = .ok ())
    (h : t.config = some row) :
    s.instantiate config (.ofTables t) = (.error (.refused .alreadyInstantiated), .ofTables t) := by
  obtain ⟨metrics, redemptionRates, purchaseRates, row?⟩ := t
  cases h
  unfold instantiate
  rw [hcheck]
  rfl

theorem instantiate_of_none (hcheck : config.check = .ok ()) (h : t.config = none) (capacity : Int)
    (name version : String) :
    instantiate ⟨capacity, some name, some version⟩ config (.ofTables t) =
      (.ok (.instantiated config.admin config.channel),
        .ofTables { t with config := some ⟨config.admin, config.channel, name, version⟩ }) := by
  obtain ⟨metrics, redemptionRates, purchaseRates, row?⟩ := t
  cases h
  unfold instantiate
  rw [hcheck]
  rfl

theorem instantiate_cases (s : Service) (config : LedgerConfig) (h : t.config = none) :
    (∃ e, s.instantiate config (.ofTables t) = (.error e, .ofTables t)) ∨
    ∃ a row, s.instantiate config (.ofTables t) =
      (.ok a, .ofTables { t with config := some row }) := by
  obtain ⟨capacity, name?, version?⟩ := s
  cases hcheck : config.check with
  | error refusal => exact .inl ⟨_, instantiate_of_check_error _ hcheck _⟩
  | ok u =>
    obtain ⟨metrics, redemptionRates, purchaseRates, row?⟩ := t
    cases h
    unfold instantiate
    rw [hcheck]
    cases name? with
    | none => cases version? <;> exact .inl ⟨_, rfl⟩
    | some name =>
      cases version? with
      | none => exact .inl ⟨_, rfl⟩
      | some version => exact .inr ⟨_, _, rfl⟩

end Service

/-! ## Calls that fail -/

def Call.Atomic {α : Type} (call : Call α) : Prop :=
  ∀ db e, (call db).1 = .error e → (call db).2 = db

theorem Call.Atomic.map {α β : Type} {call : Call α} (h : call.Atomic) (f : α → β) :
    (call.map f).Atomic := by
  intro db e he
  refine h db e ?_
  cases hresult : (call db).1 with
  | error e' =>
    rw [Call.map, hresult] at he
    exact congrArg Except.error (Except.error.inj he)
  | ok x =>
    rw [Call.map, hresult] at he
    cases he

theorem Service.atomic_call {α : Type} (action : Storage.Action α) : (call action).Atomic :=
  fun _ _ => Database.transaction_of_error

theorem Service.atomic_instantiate (s : Service) (config : LedgerConfig) :
    (s.instantiate config).Atomic := by
  unfold instantiate
  cases config.check with
  | ok u => exact atomic_call _
  | error refusal => exact fun _ _ _ => rfl

theorem Service.atomic_answer (s : Service) (request : Request) : (s.answer request).Atomic := by
  cases request with
  | instantiate config => exact (s.atomic_instantiate config).map _
  | _ => exact (atomic_call _).map _

/-! ## What becomes of the row -/

/-- The second row is the first one, or the first one with a later version. -/
structure Storage.ConfigRow.Grows (row row' : ConfigRow) : Prop where
  admin : row'.admin = row.admin
  channel : row'.channel = row.channel
  contractName : row'.contractName = row.contractName
  version : row'.contractVersion = row.contractVersion ∨
    Version.Precedes row.contractVersion row'.contractVersion

theorem Storage.ConfigRow.grows_refl (row : ConfigRow) : row.Grows row :=
  ⟨rfl, rfl, rfl, .inl rfl⟩

theorem Storage.ConfigRow.Grows.trans {first second third : ConfigRow} (h : first.Grows second)
    (h' : second.Grows third) : first.Grows third where
  admin := h'.admin.trans h.admin
  channel := h'.channel.trans h.channel
  contractName := h'.contractName.trans h.contractName
  version := by
    rcases h.version with heq | hlater
    · rw [← heq]
      exact h'.version
    · rcases h'.version with heq' | hlater'
      · rw [heq']
        exact .inr hlater
      · exact .inr (hlater.trans hlater')

namespace Service

variable {t : Tables} {row : ConfigRow} {posts : List (Int × Submission)}

theorem post_ofTables (h : t.Follow posts posts) (s : Service) (sender : Option String)
    (submission : Submission) :
    ∃ t', (s.post sender submission (.ofTables t)).2 = .ofTables t' ∧ t'.config = t.config := by
  have hpost := post_of_follow h s sender submission
  cases hverdict : verdict t.config sender submission with
  | error e =>
    rw [hverdict] at hpost
    exact ⟨t, by rw [hpost], rfl⟩
  | ok m =>
    rw [hverdict] at hpost
    obtain ⟨t', hanswer, -, hagrees⟩ := hpost
    exact ⟨t', by rw [hanswer], hagrees.config⟩

/-- A row that is there only grows, and by nothing but a migration that succeeds. -/
theorem grows_of_answer (h : t.Follow posts posts) (hrow : t.config = some row) (s : Service)
    (request : Request) :
    ∃ t' row', (s.answer request (.ofTables t)).2 = .ofTables t' ∧ t'.config = some row' ∧
      row.Grows row' ∧ (row' ≠ row → request = .migrate ∧
        ∃ reply, (s.answer request (.ofTables t)).1 = .ok reply) := by
  by_cases hasks : request.asks = true
  · exact ⟨t, row, s.answer_of_asks hasks t, hrow, row.grows_refl, fun hne => absurd rfl hne⟩
  · cases request with
    | instantiate config =>
      have hsame : (s.instantiate config (.ofTables t)).2 = .ofTables t := by
        cases hcheck : config.check with
        | error refusal => rw [instantiate_of_check_error s hcheck]
        | ok u => rw [instantiate_of_row s hcheck hrow]
      exact ⟨t, row, hsame, hrow, row.grows_refl, fun hne => absurd rfl hne⟩
    | post sender submission =>
      obtain ⟨t', hanswer, hconfig⟩ := post_ofTables h s sender submission
      exact ⟨t', row, hanswer, hconfig.trans hrow, row.grows_refl, fun hne => absurd rfl hne⟩
    | migrate =>
      by_cases hname : some row.contractName ≠ s.contractName
      · have hanswer := Call.map_of_error (migrate_of_name_ne hrow hname) Reply.acknowledged
        exact ⟨t, row, congrArg Prod.snd hanswer, hrow, row.grows_refl, fun hne => absurd rfl hne⟩
      · cases hversion : successor row.contractVersion s.contractVersion with
        | error e =>
          have hanswer :=
            Call.map_of_error (migrate_of_error hrow hname hversion) Reply.acknowledged
          exact ⟨t, row, congrArg Prod.snd hanswer, hrow, row.grows_refl,
            fun hne => absurd rfl hne⟩
        | ok version =>
          have hanswer := Call.map_of_ok (migrate_of_ok hrow hname hversion) Reply.acknowledged
          have hgrows : row.Grows { row with contractVersion := version } :=
            ⟨rfl, rfl, rfl, .inr (successor_eq_ok hversion).2⟩
          exact ⟨_, _, congrArg Prod.snd hanswer, rfl, hgrows,
            fun _ => ⟨rfl, _, congrArg Prod.fst hanswer⟩⟩
    | _ => exact absurd rfl hasks

theorem config_of_answer_of_ne (h : t.Follow posts posts) (hrow : t.config = none) (s : Service)
    {request : Request} (hother : ∀ config, request ≠ .instantiate config) :
    ∃ t', (s.answer request (.ofTables t)).2 = .ofTables t' ∧ t'.config = none := by
  by_cases hasks : request.asks = true
  · exact ⟨t, s.answer_of_asks hasks t, hrow⟩
  · cases request with
    | instantiate config => exact absurd rfl (hother config)
    | post sender submission =>
      obtain ⟨t', hanswer, hconfig⟩ := post_ofTables h s sender submission
      exact ⟨t', hanswer, hconfig.trans hrow⟩
    | migrate =>
      exact ⟨t, congrArg Prod.snd (Call.map_of_error (migrate_of_none hrow) _), hrow⟩
    | _ => exact absurd rfl hasks

/-- There is a row after the request just if it instantiates and succeeds. -/
theorem config_of_answer (h : t.Follow posts posts) (hrow : t.config = none) (s : Service)
    (request : Request) :
    ∃ t', (s.answer request (.ofTables t)).2 = .ofTables t' ∧
      (t'.config = none ↔ ¬((∃ config, request = .instantiate config) ∧
        ∃ reply, (s.answer request (.ofTables t)).1 = .ok reply)) := by
  by_cases hinstantiates : ∃ config, request = .instantiate config
  · obtain ⟨config, rfl⟩ := hinstantiates
    rcases instantiate_cases s config hrow with ⟨e, hresult⟩ | ⟨a, row, hresult⟩
    · have hanswer : s.answer (.instantiate config) (.ofTables t) = (.error e, .ofTables t) :=
        Call.map_of_error hresult _
      rw [hanswer]
      refine ⟨t, rfl, fun _ => ?_, fun _ => hrow⟩
      rintro ⟨-, reply, hreply⟩
      cases hreply
    · have hanswer : s.answer (.instantiate config) (.ofTables t) =
          (.ok (.acknowledged a), .ofTables { t with config := some row }) :=
        Call.map_of_ok hresult _
      rw [hanswer]
      refine ⟨_, rfl, fun hnone => ?_, fun hno => absurd ⟨⟨config, rfl⟩, _, rfl⟩ hno⟩
      cases hnone
  · obtain ⟨t', hanswer, hnone⟩ :=
      config_of_answer_of_ne h hrow s fun config heq => hinstantiates ⟨config, heq⟩
    exact ⟨t', hanswer, fun _ hsucceeded => hinstantiates hsucceeded.1, fun _ => hnone⟩

structure Configures (name version : String) (t : Tables) : Prop where
  recorded : ∀ capacity config, config.Valid → t.config = none →
    instantiate ⟨capacity, some name, some version⟩ config (.ofTables t) =
      (.ok (.instantiated config.admin config.channel),
        .ofTables { t with config := some ⟨config.admin, config.channel, name, version⟩ })
  refused : ∀ capacity config, ¬(config.Valid ∧ t.config = none) →
    ∃ e, instantiate ⟨capacity, some name, some version⟩ config (.ofTables t) =
      (.error e, .ofTables t)
  notInstantiated : ∀ capacity, t.config = none →
    migrate ⟨capacity, some name, some version⟩ (.ofTables t) =
      (.error (.refused .notInstantiated), .ofTables t)
  otherContract : ∀ capacity row, t.config = some row → row.contractName ≠ name →
    migrate ⟨capacity, some name, some version⟩ (.ofTables t) =
      (.error (.refused (.otherContract row.contractName (some name))), .ofTables t)
  notNewer : ∀ capacity row, t.config = some row → row.contractName = name →
    ¬Version.Precedes row.contractVersion version →
    migrate ⟨capacity, some name, some version⟩ (.ofTables t) =
      (.error (.refused (.notNewer row.contractVersion (some version))), .ofTables t)
  migrated : ∀ capacity row, t.config = some row → row.contractName = name →
    Version.Precedes row.contractVersion version →
    migrate ⟨capacity, some name, some version⟩ (.ofTables t) =
      (.ok (.migrated row.contractVersion version),
        .ofTables { t with config := some { row with contractVersion := version } })

theorem configures (name version : String) (t : Tables) : Configures name version t where
  recorded capacity config hvalid hrow :=
    instantiate_of_none (LedgerConfig.check_eq_ok_iff.2 hvalid) hrow capacity name version
  refused capacity config hno := by
    cases hcheck : config.check with
    | error refusal => exact ⟨_, instantiate_of_check_error _ hcheck _⟩
    | ok u =>
      cases hrow : t.config with
      | none => exact absurd ⟨LedgerConfig.check_eq_ok_iff.1 hcheck, hrow⟩ hno
      | some row => exact ⟨_, instantiate_of_row _ hcheck hrow⟩
  notInstantiated capacity hrow := migrate_of_none hrow
  otherContract capacity row hrow hname :=
    migrate_of_name_ne hrow fun heq => hname (Option.some.inj heq)
  notNewer capacity row hrow hname hno :=
    migrate_of_error hrow (not_not_intro (congrArg some hname)) (successor_of_not_precedes hno)
  migrated capacity row hrow hname hprecedes :=
    migrate_of_ok hrow (not_not_intro (congrArg some hname)) (successor_of_precedes hprecedes)

end Service

/-! ## Runs -/

namespace Trace

def Succeeded (wanted : Request → Prop) (steps more : List (Service × Request)) : Prop :=
  ∃ first s request last reply, more = first ++ (s, request) :: last ∧ wanted request ∧
    (s.answer request (run (steps ++ first)).database).1 = .ok reply

theorem succeeded_concat {wanted : Request → Prop} {steps more : List (Service × Request)}
    {step : Service × Request} : Succeeded wanted steps (more ++ [step]) ↔
      Succeeded wanted steps more ∨ wanted step.2 ∧
        ∃ reply, (step.1.answer step.2 (run (steps ++ more)).database).1 = .ok reply := by
  constructor
  · rintro ⟨first, s, request, last, reply, heq, hwanted, hreply⟩
    rcases List.eq_nil_or_concat last with rfl | ⟨last, step', rfl⟩
    · obtain ⟨rfl, hstep⟩ := List.append_inj' heq rfl
      cases hstep
      exact .inr ⟨hwanted, reply, hreply⟩
    · rw [List.concat_eq_append, ← List.cons_append, ← List.append_assoc] at heq
      obtain ⟨rfl, -⟩ := List.append_inj' heq rfl
      exact .inl ⟨first, s, request, last, reply, rfl, hwanted, hreply⟩
  · rintro (⟨first, s, request, last, reply, rfl, hwanted, hreply⟩ | ⟨hwanted, reply, hreply⟩)
    · exact ⟨first, s, request, last ++ [step], reply, by simp, hwanted, hreply⟩
    · exact ⟨more, step.1, step.2, [], reply, rfl, hwanted, hreply⟩

theorem Sound.next_of_answer {trace : Trace} {t t' : Tables} (h : trace.Sound t)
    {step : Service × Request} (hanswer : (step.1.answer step.2 (.ofTables t)).2 = .ofTables t') :
    (trace.next step).Sound t' := by
  obtain ⟨t'', h'⟩ := h.next step
  have hdatabase : (trace.next step).database = .ofTables t' := by
    rw [Trace.next, h.database, hanswer]
  cases h'.database.symm.trans hdatabase
  exact h'

theorem exists_config (steps : List (Service × Request)) :
    ∃ t, (run steps).Sound t ∧
      (t.config = none ↔ ¬Succeeded (fun r => ∃ config, r = .instantiate config) [] steps) := by
  induction steps using List.reverseRecOn with
  | nil =>
    refine ⟨.empty, sound_start, fun _ => ?_, fun _ => rfl⟩
    rintro ⟨first, s, request, last, reply, heq, -⟩
    simp at heq
  | append_singleton steps step ih =>
    obtain ⟨t, hsound, hiff⟩ := ih
    rw [run_concat, succeeded_concat, List.nil_append, hsound.database]
    cases hrow : t.config with
    | none =>
      obtain ⟨t', hanswer, hiff'⟩ :=
        Service.config_of_answer hsound.follow hrow step.1 step.2
      refine ⟨t', hsound.next_of_answer hanswer, hiff'.trans ?_⟩
      rw [not_or]
      exact ⟨fun hno => ⟨hiff.1 hrow, hno⟩, fun hno => hno.2⟩
    | some row =>
      obtain ⟨t', row', hanswer, hrow', -⟩ :=
        Service.grows_of_answer hsound.follow hrow step.1 step.2
      refine ⟨t', hsound.next_of_answer hanswer, ?_⟩
      rw [hrow']
      refine ⟨nofun, fun hno => absurd (hiff.2 fun h => hno (.inl h)) ?_⟩
      rw [hrow]
      exact nofun

theorem Sound.exists_grown {steps : List (Service × Request)} {t : Tables} {row : ConfigRow}
    (h : (run steps).Sound t) (hrow : t.config = some row) (more : List (Service × Request)) :
    ∃ t' row', (run (steps ++ more)).Sound t' ∧ t'.config = some row' ∧ row.Grows row' ∧
      (row' ≠ row → Succeeded (fun r => r = .migrate) steps more) := by
  induction more using List.reverseRecOn with
  | nil =>
    rw [List.append_nil]
    exact ⟨t, row, h, hrow, row.grows_refl, fun hne => absurd rfl hne⟩
  | append_singleton more step ih =>
    obtain ⟨t', row', hsound, hrow', hgrows, hsucceeded⟩ := ih
    obtain ⟨t'', row'', hanswer, hrow'', hgrows', hmigrate⟩ :=
      Service.grows_of_answer hsound.follow hrow' step.1 step.2
    rw [← List.append_assoc, run_concat, succeeded_concat, hsound.database]
    refine ⟨t'', row'', hsound.next_of_answer hanswer, hrow'', hgrows.trans hgrows', fun hne => ?_⟩
    by_cases hsame : row'' = row'
    · exact .inl (hsucceeded (hsame ▸ hne))
    · exact .inr (hmigrate hsame)

/-- **The configuration is written once, and its version only grows.** After every run, there is a
row if instantiating succeeded on the way, and what instantiating and migrating come to is said for
each service. A failure changes nothing, and neither of the two touches a history. After any
further steps the row that there was is there with at most another version, a later one, to which
it was migrated. -/
theorem run_configures (steps more : List (Service × Request)) :
    ∃ t t', (run steps).database = .ofTables t ∧ (run (steps ++ more)).database = .ofTables t' ∧
      (t.config = none ↔ ¬Succeeded (fun r => ∃ config, r = .instantiate config) [] steps) ∧
      (∀ name version, Service.Configures name version t) ∧
      (∀ (s : Service) request e, (s.answer request (.ofTables t)).1 = .error e →
        (s.answer request (.ofTables t)).2 = .ofTables t) ∧
      (∀ (s : Service) config, ∃ row?,
        (s.instantiate config (.ofTables t)).2 = .ofTables { t with config := row? }) ∧
      (∀ s : Service, ∃ row?, (s.migrate (.ofTables t)).2 = .ofTables { t with config := row? }) ∧
      ∀ row, t.config = some row → ∃ row', t'.config = some row' ∧ row.Grows row' ∧
        (row' ≠ row → Succeeded (fun r => r = .migrate) steps more) := by
  obtain ⟨t, hsound, hiff⟩ := exists_config steps
  obtain ⟨t', hsound'⟩ := sound_run (steps ++ more)
  refine ⟨t, t', hsound.database, hsound'.database, hiff,
    fun name version => Service.configures name version t,
    fun s request => s.atomic_answer request (.ofTables t),
    fun s config => s.instantiate_ofTables config t, fun s => s.migrate_ofTables t,
    fun row hrow => ?_⟩
  obtain ⟨t'', row', hsound'', hrow', hgrows, hsucceeded⟩ := hsound.exists_grown hrow more
  cases hsound'.database.symm.trans hsound''.database
  exact ⟨row', hrow', hgrows, hsucceeded⟩

end Trace

end MetricLedger
