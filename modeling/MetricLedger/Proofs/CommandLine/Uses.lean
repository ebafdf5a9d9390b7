import MetricLedger.CommandLine.Program
import MetricLedger.Proofs.CommandLine.Marks
import MetricLedger.Proofs.Service.Replies

/-!
# Uses of the program

A run on a file whose rows follow accepted posts prints the document that its command is replied to
with, or fails and leaves all rows as they were. It breaks off only over the mark of the divider in the
place of a value, or over an address that is none.
-/

namespace MetricLedger.CommandLine

open Json (Value)
open Storage (Database Tables)

/-! ## Commands as requests -/

namespace Command

def request? : Command → Option Request
  | init ledger => some (.instantiate ledger)
  | post sender submission => some (.post (some sender) submission)
  | migrate => some .migrate
  | config => some .config
  | latest key => some (.latestMetric key)
  | history key limit => some (.historicalMetrics key limit)
  | allLatest => some .allLatestMetrics
  | rate kind denom => some (.latestRate kind denom .null)
  | rates kind denom limit => some (.historicalRates kind denom .null limit)
  | denomHash _ _ | broken _ => none

def hashes : Command → Bool
  | denomHash _ _ => true
  | _ => false

def rateKind : Command → RateKind
  | rate kind _ | rates kind _ _ => kind
  | _ => default

def document (c : Command) : Reply → Except Malformed Value
  | .acknowledged a => .ok a.toObject
  | .config ledger => .ok ledger.toAnswer
  | .metric m => .ok m.toStored
  | .metrics ms => .ok (metricsAnswer ms)
  | .rate r => r.toAnswer
  | .rates rs => ratesAnswer c.rateKind rs

end Command

/-! ## Runs -/

def rows (file? : Option Database) : Tables := (file?.bind Database.tables?).getD .empty

/-- What is opened at the location. A missing file is made if it may be. -/
def opened (location : Location) (file? : Option Database) : Option Database :=
  file?.or (if location.canCreate then some .blank else none)

theorem missing_of_opened {location : Location} {file? : Option Database}
    (h : opened location file? = none) : file? = none ∧ location.canCreate = false := by
  cases file? with
  | some db => cases h
  | none =>
    refine ⟨rfl, ?_⟩
    cases hcreate : location.canCreate with
    | false => rfl
    | true => simp [opened, hcreate] at h

theorem rows_opened {location : Location} {file? : Option Database} {db : Database}
    (h : opened location file? = some db) : rows (some db) = rows file? := by
  cases file? with
  | some db' =>
    cases h
    rfl
  | none =>
    obtain ⟨-, rfl⟩ : location.canCreate = true ∧ Database.blank = db := by simpa [opened] using h
    rfl

def Plan.WorksOn (path : String) : Plan → Prop
  | finished _ => True
  | work location _ _ => location.place = .file path ∧ location.canWrite = true

instance (path : String) : ∀ plan : Plan, Decidable (plan.WorksOn path)
  | .finished _ => .isTrue trivial
  | .work location _ _ =>
    inferInstanceAs (Decidable (location.place = .file path ∧ location.canWrite = true))

structure Use where
  environment : Environment
  arguments : List String

namespace Use

def run (use : Use) (file? : Option Database) : Exit × Option Database :=
  let plan := plan use.environment use.arguments
  match plan with
  | .finished exit => (exit, file?)
  | .work location _ _ =>
    match opened location file? with
    | none => (failed (.storage Database.openError), file?)
    | some db => (plan.run db).map id some

def WorksOn (path : String) (use : Use) : Prop :=
  (plan use.environment use.arguments).WorksOn path

instance (path : String) (use : Use) : Decidable (use.WorksOn path) :=
  inferInstanceAs (Decidable (Plan.WorksOn path _))

def IsMarked (use : Use) : Prop := ∃ argument ∈ use.arguments, IsMark argument.toList

def write? (use : Use) : Option (Service × Request) :=
  match Invocation.ofArguments use.arguments with
  | .error _ => none
  | .ok invocation =>
    match invocation.settings use.environment, invocation.command.request? with
    | .ok settings, some request =>
      if request.asks then none else some ({ capacity := settings.capacity }, request)
    | _, _ => none

/-- How a run may end on those rows, and the rows it leaves. It breaks off only over a mark or over an
address that leads nowhere. -/
inductive Concludes (use : Use) (invocation : Invocation) (t : Tables) : Exit → Tables → Prop
  | hashed {denom channel hashed} (command : invocation.command = .denomHash denom channel)
    (hash : Denom.hashOver denom channel = .ok hashed) :
    Concludes use invocation t (.printed (hashDocument hashed)) t
  | unhashed {denom channel refusal} (command : invocation.command = .denomHash denom channel)
    (hash : Denom.hashOver denom channel = .error refusal) :
    Concludes use invocation t (.failed (errorLine refusal.report.message)) t
  | unsettled {e err} (command : invocation.command.hashes = false)
    (settings_eq : invocation.settings use.environment = .error e)
    (failed_eq : CommandLine.failed e = .failed err) :
    Concludes use invocation t (.failed err) t
  | unopened {settings location} (command : invocation.command.hashes = false)
    (settings_eq : invocation.settings use.environment = .ok settings)
    (location_eq : DatabaseUrl.locate settings.databaseUrl = .ok location)
    (missing : t = .empty) (withheld : location.canCreate = false) :
    Concludes use invocation t (.failed (errorLine Database.openError.report.line)) t
  | printed {settings request reply document t'}
    (settings_eq : invocation.settings use.environment = .ok settings)
    (request_eq : invocation.command.request? = some request)
    (answer_eq : Service.answer { capacity := settings.capacity } request (.ofTables t) =
      (.ok reply, .ofTables t'))
    (document_eq : invocation.command.document reply = .ok document) :
    Concludes use invocation t (.printed (document.page ++ "\n")) t'
  | failed {settings request e err}
    (settings_eq : invocation.settings use.environment = .ok settings)
    (request_eq : invocation.command.request? = some request)
    (answer_eq : Service.answer { capacity := settings.capacity } request (.ofTables t) =
      (.error e, .ofTables t))
    (failed_eq : CommandLine.failed e = .failed err) :
    Concludes use invocation t (.failed err) t
  | unasked {settings e err} (settings_eq : invocation.settings use.environment = .ok settings)
    (command : invocation.command = .broken e) (failed_eq : CommandLine.failed e = .failed err) :
    Concludes use invocation t (.failed err) t
  | astray {settings fault} (command : invocation.command.hashes = false)
    (settings_eq : invocation.settings use.environment = .ok settings)
    (location_eq : DatabaseUrl.locate settings.databaseUrl = .error fault) :
    Concludes use invocation t (.broken fault) t
  | broken {fault} (command : invocation.command.hashes = false) (unwhole : ¬invocation.Whole)
    (marked : use.IsMarked) :
    Concludes use invocation t (.broken fault) t

end Use

/-! ## Settings -/

theorem one_le_capacity_of_check {s s' : Settings} (h : s.check = .ok s') : 1 ≤ s'.capacity := by
  unfold Settings.check at h
  dsimp only at h
  split at h
  · cases h
  · rename_i hcapacity
    split at h
    · cases h
    · split at h
      · cases h
      · cases h
        exact Int.not_lt.1 hcapacity

theorem Invocation.one_le_capacity {i : Invocation} {e : Environment} {s : Settings}
    (h : i.settings e = .ok s) : 1 ≤ s.capacity := by
  unfold settings at h
  split at h
  · split at h <;> cases h
  · cases hbuild : Settings.build e i.flags with
    | error refusal =>
      rw [hbuild] at h
      cases h
    | ok s' =>
      rw [hbuild] at h
      cases h
      obtain ⟨environment, -, hcheck⟩ := bind_eq_ok_iff.1 hbuild
      exact one_le_capacity_of_check hcheck

theorem Invocation.lacksCapacity_of_malformed {i : Invocation} {e : Environment}
    {fault : Malformed} (h : i.settings e = .error (.malformed fault)) : i.lacksCapacity = true := by
  unfold settings at h
  split at h
  · rename_i hlacks
    exact hlacks
  · cases hbuild : Settings.build e i.flags with
    | error refusal =>
      rw [hbuild] at h
      cases h
    | ok s =>
      rw [hbuild] at h
      cases h

/-! ## Commands that are carried out -/

theorem answered_map {α β : Type} (call : Call α) (f : α → β) (answer : β → Except Malformed Value) :
    answered (call.map f) answer = answered call (answer ∘ f) := by
  funext db
  simp only [answered, Call.map]
  cases (call db).1 <;> rfl

namespace Command

variable {c : Command} {request : Request} {t : Tables} {made : List (Int × Submission)}

theorem call_eq (h : c.request? = some request) (service : Service) :
    c.call service = answered (service.answer request) c.document := by
  cases c <;> cases h <;> rw [Service.answer, answered_map] <;> rfl

theorem exists_document {reply : Reply} (h : reply.Writable) (c : Command) :
    ∃ document, c.document reply = .ok document := by
  cases reply with
  | rate r =>
    obtain ⟨text, htext⟩ := h
    exact ⟨_, by rw [document, RateRecord.toAnswer, htext]; rfl⟩
  | rates rs =>
    have hstored : ∀ r ∈ rs, ∃ v, r.toStored = .ok v := by
      intro r hr
      obtain ⟨text, htext⟩ := h r hr
      exact ⟨_, by rw [RateRecord.toStored, htext]; rfl⟩
    obtain ⟨vs, hvs⟩ := exists_forall₂ hstored
    exact ⟨_, by rw [document, ratesAnswer, mapM_eq_ok_iff.2 hvs]; rfl⟩
  | _ => exact ⟨_, rfl⟩

theorem plain_of_whole (hc : c.Whole) (h : c.request? = some request) : request.Plain := by
  cases c with
  | post sender submission =>
    cases h
    exact hc.value sender submission rfl
  | _ => cases h <;> trivial

theorem exists_denomHash (h : c.hashes = true) : ∃ denom channel, c = .denomHash denom channel := by
  cases c with
  | denomHash denom channel => exact ⟨denom, channel, rfl⟩
  | _ => cases h

theorem exists_request (h : c.hashes = false) :
    (∃ request, c.request? = some request) ∨ ∃ e, c = .broken e := by
  cases c with
  | denomHash _ _ => cases h
  | broken e => exact .inr ⟨e, rfl⟩
  | _ => exact .inl ⟨_, rfl⟩

end Command

/-! ## One run -/

section
variable {environment : Environment} {arguments : List String} {invocation : Invocation}

theorem plan_of_denomHash {denom channel : String}
    (h : Invocation.ofArguments arguments = .ok invocation)
    (hcommand : invocation.command = .denomHash denom channel) :
    plan environment arguments =
      match Denom.hashOver denom channel with
      | .ok hashed => .finished (.printed (hashDocument hashed))
      | .error refusal => .finished (failed (.refused refusal)) := by
  cases hhash : Denom.hashOver denom channel <;> simp only [plan, h, hcommand, hhash]

theorem plan_of_not_hashes (h : Invocation.ofArguments arguments = .ok invocation)
    (hcommand : invocation.command.hashes = false) :
    plan environment arguments =
      match invocation.settings environment with
      | .error failure => .finished (failed failure)
      | .ok settings =>
        match DatabaseUrl.locate settings.databaseUrl with
        | .ok location => .work location settings.capacity invocation.command
        | .error fault => .finished (.broken fault) := by
  simp only [plan, h]
  cases hc : invocation.command with
  | denomHash _ _ =>
    rw [hc] at hcommand
    cases hcommand
  | _ => rfl

end

def Exit.ofResult : Except Failure Value → Exit
  | .ok answer => .printed (answer.page ++ "\n")
  | .error e => CommandLine.failed e

theorem Plan.run_work {location : Location} (h : location.canWrite = true) (capacity : Int)
    (command : Command) {db db' : Database} {result : Except Failure Value}
    (hcall : command.call { capacity := capacity } (.ofTables (rows (some db))) = (result, db')) :
    (work location capacity command).run db = (.ofResult result, db') := by
  unfold run
  simp only [h, Bool.not_true, Bool.false_and]
  have hcreate : (Database.mk db.tables? false).create = .ofTables (rows (some db)) := rfl
  rw [hcreate, hcall]
  cases result <;> rfl

section
variable {α : Type} {call : Call α} {answer : α → Except Malformed Value} {db db' : Database}

theorem answered_of_error {e : Failure} (h : call db = (.error e, db')) :
    answered call answer db = (.error e, db') := by
  rw [answered, h]
  rfl

theorem answered_of_ok {x : α} {v : Value} (h : call db = (.ok x, db')) (hanswer : answer x = .ok v) :
    answered call answer db = (.ok v, db') := by
  rw [answered, h]
  simp only [Except.bind, hanswer]
  rfl

end

namespace Use

variable {use : Use} {invocation : Invocation} {settings : Settings} {t : Tables}
  {made : List (Int × Submission)}

theorem isMarked_of_not_whole (h : Invocation.ofArguments use.arguments = .ok invocation)
    (hunwhole : ¬invocation.Whole) : use.IsMarked := by
  by_contra hmarked
  refine hunwhole (Invocation.whole_ofArguments (fun argument hargument hmark => ?_) h)
  exact hmarked ⟨argument, hargument, hmark⟩

/-- The run fails over what went wrong, unless this is a malformed value. -/
theorem concludes_failed (h : Invocation.ofArguments use.arguments = .ok invocation)
    (hcommand : invocation.command.hashes = false) {e : Failure}
    (hmalformed : ∀ fault, e = .malformed fault → ¬invocation.Whole)
    (hfailed : ∀ err, CommandLine.failed e = .failed err →
      use.Concludes invocation t (.failed err) t) :
    use.Concludes invocation t (CommandLine.failed e) t := by
  cases e with
  | malformed fault =>
    have hunwhole := hmalformed fault rfl
    exact .broken hcommand hunwhole (isMarked_of_not_whole h hunwhole)
  | refused refusal => exact hfailed _ rfl
  | storage error => exact hfailed _ rfl

theorem concludes_denomHash {denom channel : String}
    (h : Invocation.ofArguments use.arguments = .ok invocation)
    (hcommand : invocation.command = .denomHash denom channel) (file? : Option Database) :
    use.Concludes invocation (rows file?) (use.run file?).1 (rows (use.run file?).2) := by
  have hplan : plan use.environment use.arguments = _ := plan_of_denomHash h hcommand
  cases hhash : Denom.hashOver denom channel with
  | ok hashed =>
    simp only [hhash] at hplan
    simp only [run, hplan]
    exact .hashed hcommand hhash
  | error refusal =>
    simp only [hhash] at hplan
    simp only [run, hplan]
    exact .unhashed hcommand hhash

/-- A command that is carried out on rows has come to one of the ends of a run. -/
theorem concludes_call (h : Invocation.ofArguments use.arguments = .ok invocation)
    (hcommand : invocation.command.hashes = false)
    (hsettings : invocation.settings use.environment = .ok settings)
    (hfollow : t.Follow made made) (hroom : ∀ post ∈ made, 1 ≤ post.1) :
    ∃ result t', invocation.command.call { capacity := settings.capacity } (.ofTables t) =
        (result, .ofTables t') ∧ use.Concludes invocation t (.ofResult result) t' := by
  rcases Command.exists_request hcommand with ⟨request, hrequest⟩ | ⟨e, hbroken⟩
  · rw [Command.call_eq hrequest]
    rcases Service.answer_cases hfollow hroom { capacity := settings.capacity } request with
      ⟨e, hanswer⟩ | ⟨reply, t', hanswer, hwritable⟩
    · refine ⟨.error e, t, answered_of_error hanswer, ?_⟩
      apply concludes_failed h hcommand
      · -- the service replies to what a whole command asks, or refuses it
        rintro fault rfl hwhole
        have hplain := Command.plain_of_whole hwhole.command hrequest
        have hreplies := Service.replies_of_plain hfollow hroom settings.capacity
          "oracle-ledger" "1.0.1" hplain
        exact hreplies.ne_malformed hanswer fault rfl
      · exact fun err herr => .failed hsettings hrequest hanswer herr
    · obtain ⟨document, hdocument⟩ := Command.exists_document hwritable invocation.command
      exact ⟨.ok document, t', answered_of_ok hanswer hdocument,
        .printed hsettings hrequest hanswer hdocument⟩
  · refine ⟨.error e, t, by rw [hbroken]; rfl, ?_⟩
    apply concludes_failed h hcommand
    · rintro fault rfl hwhole
      exact hwhole.command.sound fault hbroken
    · exact fun err herr => .unasked hsettings hbroken herr

theorem concludes_run {path : String} (hworks : use.WorksOn path)
    (h : Invocation.ofArguments use.arguments = .ok invocation) {file? : Option Database}
    (hfollow : (rows file?).Follow made made) (hroom : ∀ post ∈ made, 1 ≤ post.1) :
    use.Concludes invocation (rows file?) (use.run file?).1 (rows (use.run file?).2) := by
  cases hcommand : invocation.command.hashes with
  | true =>
    obtain ⟨denom, channel, hhash⟩ := Command.exists_denomHash hcommand
    exact concludes_denomHash h hhash file?
  | false =>
    have hplan : plan use.environment use.arguments = _ := plan_of_not_hashes h hcommand
    cases hsettings : invocation.settings use.environment with
    | error e =>
      simp only [hsettings] at hplan
      simp only [run, hplan]
      apply concludes_failed h hcommand
      · rintro fault rfl hwhole
        have hlacks := Invocation.lacksCapacity_of_malformed hsettings
        rw [hwhole.capacity] at hlacks
        cases hlacks
      · exact fun err herr => .unsettled hcommand hsettings herr
    | ok settings =>
      simp only [hsettings] at hplan
      cases hlocation : DatabaseUrl.locate settings.databaseUrl with
      | error fault =>
        simp only [hlocation] at hplan
        simp only [run, hplan]
        exact .astray hcommand hsettings hlocation
      | ok location =>
        simp only [hlocation] at hplan
        have hwrite : location.canWrite = true := by
          rw [WorksOn, hplan] at hworks
          exact hworks.2
        cases hopened : opened location file? with
        | none =>
          simp only [run, hplan, hopened]
          obtain ⟨rfl, hwithheld⟩ := missing_of_opened hopened
          exact .unopened hcommand hsettings hlocation rfl hwithheld
        | some db =>
          simp only [run, hplan, hopened]
          rw [← rows_opened hopened] at hfollow ⊢
          obtain ⟨result, t', hcall, hconcludes⟩ :=
            concludes_call h hcommand hsettings hfollow hroom
          rw [Plan.run_work hwrite _ _ hcall]
          exact hconcludes

theorem write?_of_request (h : Invocation.ofArguments use.arguments = .ok invocation)
    (hsettings : invocation.settings use.environment = .ok settings) {request : Request}
    (hrequest : invocation.command.request? = some request) :
    use.write? =
      if request.asks then none else some ({ capacity := settings.capacity }, request) := by
  simp only [write?, h, hsettings, hrequest]

theorem write?_of_denomHash (h : Invocation.ofArguments use.arguments = .ok invocation)
    {denom channel : String} (hcommand : invocation.command = .denomHash denom channel) :
    use.write? = none := by
  simp only [write?, h, hcommand, Command.request?]
  cases invocation.settings use.environment <;> rfl

theorem Concludes.rows_eq_of_asks {exit : Exit} {t' : Tables}
    (h : use.Concludes invocation t exit t')
    (hasks : ∀ request, invocation.command.request? = some request → request.asks = true) :
    t' = t := by
  cases h with
  | @printed settings request _ _ _ _ hrequest hanswer _ =>
    have hsame := Service.answer_of_asks { capacity := settings.capacity } (hasks _ hrequest) t
    rw [hanswer] at hsame
    exact Option.some.inj (congrArg Database.tables? hsame)
  | _ => rfl

end Use

end MetricLedger.CommandLine
