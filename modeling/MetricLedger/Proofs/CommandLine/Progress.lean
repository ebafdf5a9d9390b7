import MetricLedger.Proofs.CommandLine.Uses

/-!
# Progress on one file

The program is run again and again on one file, which it finds missing at first. What is in the file
is what the calls that succeeded leave behind when they are made directly, and so every further run
finds rows that follow accepted posts.
-/

namespace MetricLedger.CommandLine

open Storage (Database Tables)

/-- The file that runs have led to, and the calls that succeeded on the way, but for questions. -/
structure Progress where
  file? : Option Database
  calls : List (Service × Request)

namespace Progress

def start : Progress := ⟨none, []⟩

def next (p : Progress) (use : Use) : Progress :=
  match use.run p.file? with
  | (.printed _, file?) => ⟨file?, p.calls ++ use.write?.toList⟩
  | (_, file?) => ⟨file?, p.calls⟩

def runAll (uses : List Use) : Progress := uses.foldl next start

theorem runAll_concat (uses : List Use) (use : Use) :
    runAll (uses ++ [use]) = (runAll uses).next use := by
  rw [runAll, List.foldl_append, ← runAll]
  rfl

structure Sound (p : Progress) : Prop where
  trace : (Trace.run p.calls).Sound (rows p.file?)
  room : ∀ post ∈ (Trace.run p.calls).accepted, 1 ≤ post.1

variable {p : Progress} {use : Use} {path : String}

theorem sound_start : start.Sound := ⟨Trace.sound_start, nofun⟩

theorem Sound.of_rows_eq (h : p.Sound) {file? : Option Database} (hrows : rows file? = rows p.file?) :
    Sound ⟨file?, p.calls⟩ :=
  ⟨hrows ▸ h.trace, h.room⟩

theorem room_acceptedBy {service : Service} (h : 1 ≤ service.capacity) (request : Request)
    (result : Except Failure Reply) :
    ∀ post ∈ Trace.acceptedBy service request result, 1 ≤ post.1 := by
  unfold Trace.acceptedBy
  split
  · exact fun post hpost => List.mem_singleton.1 hpost ▸ h
  · exact nofun

/-- A call that succeeds on the rows is one more call of the trace. -/
theorem Sound.call (h : p.Sound) {service : Service} (hcapacity : 1 ≤ service.capacity)
    {request : Request} {file? : Option Database}
    (hanswer : (service.answer request (.ofTables (rows p.file?))).2 = .ofTables (rows file?)) :
    Sound ⟨file?, p.calls ++ [(service, request)]⟩ := by
  obtain ⟨t', htrace⟩ := h.trace.next (service, request)
  have htables : Database.ofTables t' = .ofTables (rows file?) := by
    rw [← htrace.database, ← hanswer, ← h.trace.database]
    rfl
  cases Option.some.inj (congrArg Database.tables? htables)
  refine ⟨by rw [Trace.run_concat]; exact htrace, fun post hpost => ?_⟩
  rw [Trace.run_concat] at hpost
  rcases List.mem_append.1 hpost with hpost | hpost
  · exact h.room post hpost
  · exact room_acceptedBy hcapacity _ _ post hpost

theorem Sound.next (h : p.Sound) (hworks : use.WorksOn path) : (p.next use).Sound := by
  cases hinvocation : Invocation.ofArguments use.arguments with
  | error stop =>
    have hrun : use.run p.file? = (.stopped stop.code, p.file?) := by
      simp only [Use.run, plan, hinvocation]
    rw [Progress.next, hrun]
    exact h
  | ok invocation =>
    have hconcludes := Use.concludes_run hworks hinvocation h.trace.follow h.room
    unfold Progress.next
    generalize use.run p.file? = ended at hconcludes ⊢
    obtain ⟨exit, file?⟩ := ended
    -- the rows that are left become an index for the cases
    generalize hrows : rows file? = t at hconcludes
    have hsame := hconcludes.rows_eq_of_asks
    cases hconcludes with
    | hashed hcommand _ =>
      rw [Use.write?_of_denomHash hinvocation hcommand]
      simpa using h.of_rows_eq hrows
    | @printed settings request _ _ _ hsettings hrequest hanswer _ =>
      rw [Use.write?_of_request hinvocation hsettings hrequest]
      cases hasks : request.asks with
      | true =>
        have heq : t = rows p.file? := hsame fun request' hrequest' => by
          rw [hrequest] at hrequest'
          cases hrequest'
          exact hasks
        simpa using h.of_rows_eq (hrows.trans heq)
      | false =>
        exact h.call (Invocation.one_le_capacity hsettings) (by rw [hanswer, hrows])
    -- a run that prints nothing leaves the rows, and adds no call
    | _ => exact h.of_rows_eq hrows

theorem sound_runAll (uses : List Use) (h : ∀ use ∈ uses, use.WorksOn path) :
    (runAll uses).Sound := by
  induction uses using List.reverseRecOn with
  | nil => exact sound_start
  | append_singleton uses use ih =>
    rw [runAll_concat]
    exact (ih fun other hother => h other (List.mem_append_left _ hother)).next
      (h use (List.mem_append_right _ List.mem_cons_self))

/-- After any runs on one file, its rows are those of the calls that succeeded, made directly. Any
further run whose arguments, which are Unicode texts, are in order comes to one of its ends: it
writes only if its command is no question, and is the same in every environment if it only names a
token over a channel. -/
theorem runAll_concludes (uses : List Use) (h : ∀ use ∈ uses, use.WorksOn path) :
    ∃ t, rows (runAll uses).file? = t ∧
      (Trace.run (runAll uses).calls).database = .ofTables t ∧
      ∀ (use : Use) (invocation : Invocation), use.WorksOn path →
        Invocation.ofArguments use.arguments = .ok invocation →
        ∃ exit file?, use.run (runAll uses).file? = (exit, file?) ∧
          use.Concludes invocation t exit (rows file?) ∧
          ((∀ request, invocation.command.request? = some request → request.asks = true) →
            rows file? = t) ∧
          (invocation.command.hashes = true → ∀ environment,
            Use.run ⟨environment, use.arguments⟩ (runAll uses).file? = (exit, file?)) := by
  have hsound := sound_runAll uses h
  refine ⟨_, rfl, hsound.trace.database, fun use invocation hworks hinvocation => ?_⟩
  have hconcludes := Use.concludes_run hworks hinvocation hsound.trace.follow hsound.room
  refine ⟨_, _, rfl, hconcludes, hconcludes.rows_eq_of_asks, fun hhashes environment => ?_⟩
  obtain ⟨denom, channel, hcommand⟩ := Command.exists_denomHash hhashes
  simp only [Use.run, plan_of_denomHash hinvocation hcommand]

def onFile (words : List String) : Use :=
  ⟨default, "--database-url=sqlite:////tmp/ledger.db" :: words⟩

def opening : List Use := [
  onFile ["init", "--admin", "a"],
  onFile ["post", "--sender", "a", "--key", "k", "--value", "1.50", "--type", "redemption_rate",
    "--update-time", "7", "--block-height", "8", "--denom", "d"]]

theorem runAll_concludes_opening :
    (∀ use ∈ opening, use.WorksOn "/tmp/ledger.db") ∧ (runAll opening).calls.length = 2 ∧
      ∃ t file?, (Trace.run (runAll opening).calls).database = .ofTables t ∧
        (onFile ["rate", "redemption", "d"]).run (runAll opening).file? =
          (.printed "\x7b\n  \"redemption_rate\": \"1.5\",\n  \"update_time\": 7\n\x7d\n", file?) ∧
        rows file? = t := by
  have hworks : ∀ use ∈ opening, use.WorksOn "/tmp/ledger.db" := by decide +kernel
  have hexit : ((onFile ["rate", "redemption", "d"]).run (runAll opening).file?).1 =
      .printed "\x7b\n  \"redemption_rate\": \"1.5\",\n  \"update_time\": 7\n\x7d\n" := by
    decide +kernel
  obtain ⟨t, -, hdatabase, hconcludes⟩ := runAll_concludes opening hworks
  obtain ⟨exit, file?, hrun, -, hasks, -⟩ := hconcludes (onFile ["rate", "redemption", "d"])
    ⟨⟨some "sqlite:////tmp/ledger.db", none, none, none⟩, false, .rate .redemption "d"⟩
    (by decide +kernel) (by decide +kernel)
  rw [hrun] at hexit
  cases hexit
  refine ⟨hworks, by decide +kernel, t, file?, hdatabase, hrun, hasks fun request hrequest => ?_⟩
  cases hrequest
  rfl

def markedInit : Use := onFile ["init", "--admin", "a", "--channel-id=--"]

/-- The arguments are in order, but the run neither prints a document nor fails as foreseen. -/
theorem markedInit_breaks_off :
    markedInit.WorksOn "/tmp/ledger.db" ∧
      (∃ invocation, Invocation.ofArguments markedInit.arguments = .ok invocation) ∧
      (markedInit.run start.file?).1 = .broken .mismatch := by
  refine ⟨by decide +kernel, ?_, by decide +kernel⟩
  exact ⟨⟨⟨some "sqlite:////tmp/ledger.db", none, none, none⟩, false,
    .broken (.malformed .mismatch)⟩, by decide +kernel⟩

end Progress

end MetricLedger.CommandLine
