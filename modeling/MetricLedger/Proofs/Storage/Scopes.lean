import Mathlib.Data.List.Induction
import MetricLedger.Storage.Config
import MetricLedger.Proofs.Results
import MetricLedger.Proofs.Storage.Rows

/-!
# Scopes

A scope is a body of steps in a session of its own. What the tables hold after any number of scopes
is said by the steps of those that ended normally alone: for each key the payload that was saved for
it last, or an earlier one that counts as the same. Within a scope its own earlier steps come on
top of them.
-/

namespace MetricLedger.Storage

open Json (Entries Value)

structure Document where
  members : List (String × Value)
  distinct : (members.map Prod.fst).Nodup

def Document.value (document : Document) : Value := .object document.members

namespace Scope

inductive Step where
  | save (name : TableName) (key : String) (document : Document)
  | load? (name : TableName) (key : String)
  | isStored (name : TableName) (key : String)
  | loadAll (name : TableName)
  | saveConfig (admin channel contractName version : Option String)
  | setVersion (version : Option String)
  | loadConfig
  | loadConfig?
  | raise (failure : Failure)

inductive Answer where
  | saved
  | row (payload? : Option Value)
  | isStored (stored : Bool)
  | rows (rows : List Row)
  | config (row? : Option ConfigRow)
deriving DecidableEq

def Step.action : Step → Action Answer
  | save name key document => do
    History.save name key document.value
    return .saved
  | load? name key => return .row (← History.load? name key)
  | isStored name key => return .isStored (← History.isStored name key)
  | loadAll name => return .rows (← History.loadAll name)
  | saveConfig admin channel contractName version =>
    return .config (some (← Config.save admin channel contractName version))
  | setVersion version => do
    Config.setVersion version
    return .saved
  | loadConfig => return .config (some (← Config.load))
  | loadConfig? => return .config (← Config.load?)
  | raise failure => throw failure

def follow (s : Session) : List Step → List Answer × Except Failure Unit × Session
  | [] => ([], .ok (), s)
  | step :: rest =>
    match s.perform step.action with
    | (.ok answer, s) =>
      let (answers, ended) := follow s rest
      (answer :: answers, ended)
    | (.error e, s) => ([], .error e, s)

def run (db : Database) (body : List Step) : List Answer × Except Failure Unit × Database :=
  let (answers, result, s) := follow (Session.begin db) body
  (answers, s.finish result)

def perform : List Step → Action Unit
  | [] => pure ()
  | step :: rest => do
    let _ ← step.action
    perform rest

/-! ## What steps come to -/

def saves (name : TableName) (key : String) (done : List Step) : List Value :=
  done.filterMap fun step =>
    match step with
    | .save name' key' document =>
      if name' = name ∧ key' = key then some document.value else none
    | _ => none

def row? (name : TableName) (key : String) (done : List Step) : Option Value :=
  (saves name key done).foldl History.settle none

def configAfter (row? : Option ConfigRow) : Step → Option ConfigRow
  | .saveConfig (some admin) channel (some contractName) (some version) =>
    some ⟨admin, channel, contractName, version⟩
  | .setVersion (some version) => row?.map fun row => { row with contractVersion := version }
  | _ => row?

def config (done : List Step) : Option ConfigRow := done.foldl configAfter none

inductive Answers (done : List Step) : Step → Except Failure Answer → Prop
  | save {name key document} : Answers done (.save name key document) (.ok .saved)
  | load? {name key} : Answers done (.load? name key) (.ok (.row (row? name key done)))
  | isStored {name key} :
    Answers done (.isStored name key) (.ok (.isStored (saves name key done ≠ [])))
  | loadAll {name rows} (sorted : Sorted rows)
    (complete : ∀ key payload, (key, payload) ∈ rows ↔ row? name key done = some payload) :
    Answers done (.loadAll name) (.ok (.rows rows))
  | saveConfig {admin channel contractName version} :
    Answers done (.saveConfig (some admin) channel (some contractName) (some version))
      (.ok (.config (some ⟨admin, channel, contractName, version⟩)))
  | saveConfig_incomplete {admin channel contractName version}
    (missing : admin = none ∨ contractName = none ∨ version = none) :
    Answers done (.saveConfig admin channel contractName version)
      (.error (.storage (.query Config.repository
        (if (config done).isSome then "flush" else "add") "a value is missing")))
  | setVersion {version row} (present : config done = some row) :
    Answers done (.setVersion (some version)) (.ok .saved)
  | setVersion_incomplete {row} (present : config done = some row) :
    Answers done (.setVersion none)
      (.error (.storage (.query Config.repository "flush" "a value is missing")))
  | setVersion_absent {version} (absent : config done = none) :
    Answers done (.setVersion version)
      (.error (.storage (.notFound Config.repository "config_id" "1")))
  | loadConfig {row} (present : config done = some row) :
    Answers done .loadConfig (.ok (.config (some row)))
  | loadConfig_absent (absent : config done = none) :
    Answers done .loadConfig (.error (.storage (.notFound Config.repository "config_id" "1")))
  | loadConfig? : Answers done .loadConfig? (.ok (.config (config done)))
  | raise {failure} : Answers done (.raise failure) (.error failure)

inductive Follows : List Step → List Step → List Answer → Except Failure Unit → Prop
  | nil {done} : Follows done [] [] (.ok ())
  | cons {done step rest answer answers ended} (first : Answers done step (.ok answer))
    (others : Follows (done ++ [step]) rest answers ended) :
    Follows done (step :: rest) (answer :: answers) ended
  | stop {done step rest e} (first : Answers done step (.error e)) :
    Follows done (step :: rest) [] (.error e)

structure Shows (t : Tables) (done : List Step) : Prop where
  row : ∀ name key, (t.table name).get? key = row? name key done
  config : t.config = Scope.config done

end Scope

/-! ## Saving an object -/

theorem put_of_not_mem {members : List (String × Value)} {name : String} {value : Value}
    (h : name ∉ members.map Prod.fst) : Json.put members name value = members ++ [(name, value)] := by
  induction members with
  | nil => rfl
  | cons member rest ih =>
    obtain ⟨other, old⟩ := member
    rw [List.map_cons, List.mem_cons, not_or] at h
    rw [Json.put, if_neg (Ne.symm h.1), ih h.2, List.cons_append]

theorem foldl_put_of_nodup {merged members : List (String × Value)}
    (h : ((merged ++ members).map Prod.fst).Nodup) :
    members.foldl (fun merged (name, value) => Json.put merged name value) merged =
      merged ++ members := by
  induction members generalizing merged with
  | nil => rw [List.foldl_nil, List.append_nil]
  | cons member rest ih =>
    obtain ⟨name, value⟩ := member
    have hsplit : merged ++ (name, value) :: rest = merged ++ [(name, value)] ++ rest := by simp
    have hnew : name ∉ merged.map Prod.fst := by
      rw [List.map_append, List.nodup_append] at h
      exact fun hmem => h.2.2 name hmem name List.mem_cons_self rfl
    rw [List.foldl_cons]
    dsimp only
    rw [put_of_not_mem hnew, hsplit]
    exact ih (by rwa [← hsplit])

theorem Document.merge_members (document : Document) :
    Value.merge document.members = document.members :=
  @foldl_put_of_nodup [] document.members document.distinct

namespace Scope

/-! ## Steps -/

variable {t : Tables} {done : List Step} {name : TableName} {key : String}

theorem saves_concat (name : TableName) (key : String) (done : List Step) (step : Step) :
    saves name key (done ++ [step]) = saves name key done ++ saves name key [step] :=
  List.filterMap_append

theorem row?_concat_of_save {document : Document} :
    row? name key (done ++ [.save name key document]) =
      History.settle (row? name key done) document.value := by
  rw [row?, saves_concat, List.foldl_append, ← row?]
  simp [saves]

theorem row?_concat {step : Step} (h : saves name key [step] = []) :
    row? name key (done ++ [step]) = row? name key done := by
  rw [row?, saves_concat, h, List.append_nil, ← row?]

theorem config_concat (done : List Step) (step : Step) :
    config (done ++ [step]) = configAfter (config done) step := by
  rw [config, List.foldl_append, ← config]
  rfl

theorem isSome_foldl_settle (row? : Option Value) (payloads : List Value) :
    (payloads.foldl History.settle row?).isSome = (row?.isSome || payloads ≠ []) := by
  induction payloads generalizing row? with
  | nil => simp
  | cons payload rest ih =>
    have hsettled : (History.settle row? payload).isSome = true := by
      unfold History.settle
      split
      · split <;> rfl
      · rfl
    rw [List.foldl_cons, ih, hsettled]
    simp

theorem isSome_row? (name : TableName) (key : String) (done : List Step) :
    (row? name key done).isSome = decide (saves name key done ≠ []) := by
  rw [row?, isSome_foldl_settle]
  rfl

theorem shows_empty : Shows .empty [] where
  row name key := by cases name <;> rfl
  config := rfl

theorem Shows.concat (h : Shows t done) {step : Step} (hsaves : ∀ name key, saves name key [step] = [])
    (hconfig : configAfter (Scope.config done) step = Scope.config done) :
    Shows t (done ++ [step]) where
  row name key := by rw [h.row, row?_concat (hsaves name key)]
  config := by rw [h.config, config_concat, hconfig]

theorem Shows.concat_config (h : Shows t done) {step : Step}
    (hsaves : ∀ name key, saves name key [step] = []) {row : ConfigRow}
    (hconfig : configAfter (Scope.config done) step = some row) :
    Shows { t with config := some row } (done ++ [step]) where
  row name key := by rw [Tables.table_config, h.row, row?_concat (hsaves name key)]
  config := by rw [config_concat, hconfig]

theorem Shows.concat_save (h : Shows t done) {document : Document} {payload : Value}
    (hsettle : History.settle ((t.table name).get? key) document.value = some payload) :
    Shows (t.put name key payload) (done ++ [.save name key document]) where
  row name' key' := by
    by_cases heq : name' = name ∧ key' = key
    · obtain ⟨rfl, rfl⟩ := heq
      rw [Tables.get?_put_self, row?_concat_of_save, ← h.row, hsettle]
    · have hsaves : saves name' key' [.save name key document] = [] := by
        have hne : ¬(name = name' ∧ key = key') := fun h => heq ⟨h.1.symm, h.2.symm⟩
        simp [saves, hne]
      rw [Tables.get?_put_ne heq, h.row, row?_concat hsaves]
  config := by
    rw [Tables.config_put, h.config, config_concat]
    rfl

theorem Shows.answers_loadAll (h : Shows t done) (name : TableName) :
    Answers done (.loadAll name) (.ok (.rows (t.table name).rows)) := by
  refine .loadAll (t.table name).sorted fun key payload => ?_
  rw [Table.mem_rows_iff, h.row]

/-- The step is answered as the earlier ones have it, and comes on top of them; or it fails. -/
def Advances (t : Tables) (done : List Step) (step : Step) : Prop :=
  (∃ answer t', step.action.Does t (.ok answer) t' ∧ Answers done step (.ok answer) ∧
    Shows t' (done ++ [step])) ∨
  ∃ e v, step.action.run (View.ofTables t) = (.error e, v) ∧ Answers done step (.error e)

theorem Shows.advances_saveConfig (h : Shows t done)
    (admin channel contractName version : Option String) :
    Advances t done (.saveConfig admin channel contractName version) := by
  have hrejected (hmissing : admin = none ∨ contractName = none ∨ version = none) :
      ∃ v, (Step.saveConfig admin channel contractName version).action.run (View.ofTables t) =
        (.error (.storage (.query Config.repository
          (if (Scope.config done).isSome then "flush" else "add") "a value is missing")), v) := by
    rw [← h.config]
    obtain rfl | rfl | rfl := hmissing
    · exact ⟨_, rfl⟩
    · cases admin <;> exact ⟨_, rfl⟩
    · cases admin <;> cases contractName <;> exact ⟨_, rfl⟩
  by_cases hmissing : admin = none ∨ contractName = none ∨ version = none
  · obtain ⟨v, hrun⟩ := hrejected hmissing
    exact .inr ⟨_, v, hrun, .saveConfig_incomplete hmissing⟩
  · simp only [not_or] at hmissing
    obtain ⟨admin, rfl⟩ := Option.ne_none_iff_exists'.1 hmissing.1
    obtain ⟨contractName, rfl⟩ := Option.ne_none_iff_exists'.1 hmissing.2.1
    obtain ⟨version, rfl⟩ := Option.ne_none_iff_exists'.1 hmissing.2.2
    exact .inl ⟨_, _, rfl, .saveConfig, h.concat_config (fun _ _ => rfl) rfl⟩

theorem Shows.advances_setVersion (h : Shows t done) (version : Option String) :
    Advances t done (.setVersion version) := by
  have hconfig := h.config
  obtain ⟨metrics, redemption, purchase, row?⟩ := t
  dsimp only at hconfig
  cases hrow : Scope.config done with
  | none =>
    rw [hrow] at hconfig
    subst hconfig
    exact .inr ⟨_, _, rfl, .setVersion_absent hrow⟩
  | some row =>
    rw [hrow] at hconfig
    subst hconfig
    cases version with
    | none => exact .inr ⟨_, _, rfl, .setVersion_incomplete hrow⟩
    | some version =>
      refine .inl ⟨_, _, rfl, .setVersion hrow, h.concat_config (fun _ _ => rfl) ?_⟩
      rw [hrow]
      rfl

theorem Shows.advances_loadConfig (h : Shows t done) : Advances t done .loadConfig := by
  have hconfig := h.config
  obtain ⟨metrics, redemption, purchase, row?⟩ := t
  dsimp only at hconfig
  cases hrow : Scope.config done with
  | none =>
    rw [hrow] at hconfig
    subst hconfig
    exact .inr ⟨_, _, rfl, .loadConfig_absent hrow⟩
  | some row =>
    rw [hrow] at hconfig
    subst hconfig
    exact .inl ⟨_, _, rfl, .loadConfig hrow, h.concat (fun _ _ => rfl) rfl⟩

theorem Shows.advances (h : Shows t done) (step : Step) : Advances t done step := by
  cases step with
  | save name key document =>
    obtain ⟨payload, hdoes, hsettle⟩ :=
      History.does_save_settle document.merge_members name key t
    exact .inl ⟨_, _, hdoes.bind (Action.does_pure _ _), .save, h.concat_save hsettle⟩
  | load? name key =>
    refine .inl ⟨_, _, (History.does_load? name key t).bind (Action.does_pure _ _), ?_, ?_⟩
    · rw [h.row]
      exact .load?
    · exact h.concat (fun _ _ => rfl) rfl
  | isStored name key =>
    refine .inl ⟨_, _, rfl, ?_, ?_⟩
    · rw [h.row, isSome_row?]
      exact .isStored
    · exact h.concat (fun _ _ => rfl) rfl
  | loadAll name =>
    refine .inl ⟨_, _, (History.does_loadAll name t).bind (Action.does_pure _ _), ?_, ?_⟩
    · exact h.answers_loadAll name
    · exact h.concat (fun _ _ => rfl) rfl
  | saveConfig admin channel contractName version => exact h.advances_saveConfig ..
  | setVersion version => exact h.advances_setVersion version
  | loadConfig => exact h.advances_loadConfig
  | loadConfig? =>
    refine .inl ⟨_, _, rfl, ?_, ?_⟩
    · rw [h.config]
      exact .loadConfig?
    · exact h.concat (fun _ _ => rfl) rfl
  | raise failure => exact .inr ⟨_, _, rfl, .raise⟩

/-! ## What a key keeps -/

/-- The row holds the payload that was saved last, or an earlier one that counts as the same. -/
def LastSaved (payloads : List Value) : Option Value → Prop
  | none => payloads = []
  | some kept => ∃ earlier payload, payloads = earlier ++ [payload] ∧
      (kept = payload ∨ kept ∈ earlier ∧ payload.same kept = true)

theorem LastSaved.mem {payloads : List Value} {kept : Value}
    (h : LastSaved payloads (some kept)) : kept ∈ payloads := by
  obtain ⟨earlier, payload, rfl, rfl | ⟨hmem, -⟩⟩ := h
  · exact List.mem_append_right _ List.mem_cons_self
  · exact List.mem_append_left _ hmem

theorem LastSaved.eq_last {earlier : List Value} {payload : Value} {row? : Option Value}
    (h : LastSaved (earlier ++ [payload]) row?)
    (hunlike : ∀ other ∈ earlier, payload.same other = true → other = payload) :
    row? = some payload := by
  cases row? with
  | none => exact absurd h (List.append_ne_nil_of_right_ne_nil _ (List.cons_ne_nil _ _))
  | some kept =>
    obtain ⟨others, last, heq, hkept⟩ := h
    obtain ⟨rfl, hlast⟩ := List.append_inj' heq rfl
    cases hlast
    rcases hkept with rfl | ⟨hmem, hsame⟩
    · rfl
    · rw [hunlike kept hmem hsame]

theorem lastSaved_foldl_settle (payloads : List Value) :
    LastSaved payloads (payloads.foldl History.settle none) := by
  induction payloads using List.reverseRecOn with
  | nil => rfl
  | append_singleton payloads payload ih =>
    rw [List.foldl_append, List.foldl_cons, List.foldl_nil]
    cases hrow : payloads.foldl History.settle none with
    | none => exact ⟨payloads, payload, rfl, .inl rfl⟩
    | some kept =>
      rw [hrow] at ih
      rw [History.settle]
      split
      · rename_i hsame
        exact ⟨payloads, payload, rfl, .inr ⟨ih.mem, hsame⟩⟩
      · exact ⟨payloads, payload, rfl, .inl rfl⟩

/-! ## Bodies -/

section
variable {α β : Type} {s s' : Session} {x : Action α}

theorem perform_eq (s : Session) (x : Action α) :
    s.perform x = ((x.run s.view).1, { s with view := (x.run s.view).2 }) := rfl

theorem perform_bind_of_ok {a : α} (h : s.perform x = (.ok a, s')) (f : α → Action β) :
    s.perform (x >>= f) = s'.perform (f a) := by
  rw [perform_eq] at h
  obtain ⟨hresult, rfl⟩ := Prod.mk.inj h
  have hrun : (x >>= f).run s.view = (f a).run (x.run s.view).2 := by
    change (ExceptT.bindCont f (x.run s.view).1).run (x.run s.view).2 = _
    rw [hresult]
    rfl
  rw [perform_eq, hrun]
  rfl

theorem perform_bind_of_error {e : Failure} (h : s.perform x = (.error e, s')) (f : α → Action β) :
    s.perform (x >>= f) = (.error e, s') := by
  rw [perform_eq] at h
  obtain ⟨hresult, rfl⟩ := Prod.mk.inj h
  have hrun : (x >>= f).run s.view = (.error e, (x.run s.view).2) := by
    change (ExceptT.bindCont f (x.run s.view).1).run (x.run s.view).2 = _
    rw [hresult]
    rfl
  rw [perform_eq, hrun]

end

theorem perform_eq_follow (s : Session) (body : List Step) :
    s.perform (perform body) = (follow s body).2 := by
  induction body generalizing s with
  | nil => rfl
  | cons step rest ih =>
    rw [perform, follow]
    split
    · rename_i answer s' hstep
      rw [perform_bind_of_ok hstep]
      exact ih s'
    · rename_i e s' hstep
      rw [perform_bind_of_error hstep]

theorem run_eq_transaction (db : Database) (body : List Step) :
    (run db body).2 = db.transaction (perform body) := by
  rw [Database.transaction, perform_eq_follow]
  rfl

theorem Shows.follow (h : Shows t done) (db : Database) (body : List Step) :
    ∃ answers ended s, Scope.follow ⟨db, .ofTables t⟩ body = (answers, ended, s) ∧
      Follows done body answers ended ∧
      ((∃ t', ended = .ok () ∧ s = ⟨db, .ofTables t'⟩ ∧ Shows t' (done ++ body)) ∨
        ∃ e, ended = .error e ∧ s.committed = db) := by
  induction body generalizing t done with
  | nil =>
    refine ⟨[], .ok (), _, rfl, .nil, .inl ⟨t, rfl, rfl, ?_⟩⟩
    rwa [List.append_nil]
  | cons step rest ih =>
    obtain ⟨answer, t', hdoes, hanswer, hshows⟩ | ⟨e, v, hrun, hanswer⟩ := h.advances step
    · obtain ⟨answers, ended, s, hfollow, hfollows, hends⟩ := ih hshows
      refine ⟨answer :: answers, ended, s, ?_, .cons hanswer hfollows, ?_⟩
      · rw [Scope.follow, Session.perform_of_does hdoes]
        dsimp only
        rw [hfollow]
      · rwa [List.append_assoc] at hends
    · refine ⟨[], .error e, ⟨db, v⟩, ?_, .stop hanswer, .inr ⟨e, rfl, rfl⟩⟩
      rw [Scope.follow, Session.perform, hrun]

/-- The committed database, and the steps of the bodies that ended normally. -/
structure Log where
  database : Database
  done : List Step

namespace Log

def start : Log := ⟨Database.blank.create, []⟩

def next (log : Log) (body : List Step) : Log :=
  match run log.database body with
  | (_, .ok (), db) => ⟨db, log.done ++ body⟩
  | (_, .error _, db) => ⟨db, log.done⟩

def runAll (bodies : List (List Step)) : Log := bodies.foldl next start

theorem runAll_concat (bodies : List (List Step)) (body : List Step) :
    runAll (bodies ++ [body]) = (runAll bodies).next body := by
  rw [runAll, List.foldl_append, ← runAll]
  rfl

def Sound (log : Log) : Prop := ∃ t, log.database = .ofTables t ∧ Shows t log.done

structure Serves (log : Log) (body : List Step) (answers : List Answer)
    (ended : Except Failure Unit) : Prop where
  run : run log.database body = (answers, ended, (log.next body).database)
  transaction : log.database.transaction (perform body) = (ended, (log.next body).database)
  follows : Follows log.done body answers ended
  ends : (ended = .ok () ∧ (log.next body).done = log.done ++ body) ∨
    ∃ e, ended = .error e ∧ log.next body = log

theorem serves_of_run {log log' : Log} {body : List Step} {answers : List Answer}
    {ended : Except Failure Unit} (hrun : Scope.run log.database body = (answers, ended, log'.database))
    (hnext : log.next body = log') (hfollows : Follows log.done body answers ended)
    (hends : (ended = .ok () ∧ log'.done = log.done ++ body) ∨ ∃ e, ended = .error e ∧ log' = log) :
    log.Serves body answers ended where
  run := by rw [hrun, hnext]
  transaction := by rw [← run_eq_transaction, hrun, hnext]
  follows := hfollows
  ends := by rwa [hnext]

theorem Sound.next {log : Log} (h : log.Sound) (body : List Step) :
    (log.next body).Sound ∧ ∃ answers ended, log.Serves body answers ended := by
  obtain ⟨t, hdb, hshows⟩ := h
  obtain ⟨answers, ended, s, hfollow, hfollows, hends⟩ := hshows.follow log.database body
  have hrun : Scope.run log.database body = (answers, s.finish ended) := by
    rw [Scope.run, hdb, Session.begin_ofTables, ← hdb, hfollow]
  obtain ⟨t', rfl, rfl, hshows'⟩ | ⟨e, rfl, hs⟩ := hends
  · change Scope.run log.database body = (answers, .ok (), .ofTables t') at hrun
    have hnext : log.next body = ⟨.ofTables t', log.done ++ body⟩ := by
      rw [Log.next, hrun]
    refine ⟨?_, answers, .ok (), serves_of_run hrun hnext hfollows (.inl ⟨rfl, rfl⟩)⟩
    rw [hnext]
    exact ⟨t', rfl, hshows'⟩
  · rw [Session.finish, hs] at hrun
    have hnext : log.next body = log := by
      rw [Log.next, hrun]
    refine ⟨?_, answers, .error e, serves_of_run hrun hnext hfollows (.inr ⟨e, rfl, rfl⟩)⟩
    rw [hnext]
    exact ⟨t, hdb, hshows⟩

theorem sound_runAll (bodies : List (List Step)) : (runAll bodies).Sound := by
  induction bodies using List.reverseRecOn with
  | nil => exact ⟨.empty, rfl, shows_empty⟩
  | append_singleton bodies body ih =>
    rw [runAll_concat]
    exact (ih.next body).1

/-- **A key keeps what was saved for it last.** After any number of scopes a table has a row for just
the keys that a scope which ended normally saved a payload for. It holds the payload that was saved
last, unless one before it counts as the same without being the same; then it may hold that one. Every
further body is answered from there and from its own earlier steps: it reads the rows in order and the
configuration, and a failure comes out as it was raised and leaves what was committed. -/
theorem runAll_serves_last_saves (bodies : List (List Step)) :
    (runAll bodies).Sound ∧
    (∀ name key, LastSaved (saves name key (runAll bodies).done)
      (row? name key (runAll bodies).done)) ∧
    (∀ name key earlier payload, saves name key (runAll bodies).done = earlier ++ [payload] →
      (∀ other ∈ earlier, payload.same other = true → other = payload) →
      row? name key (runAll bodies).done = some payload) ∧
    ∀ body, ∃ answers ended, (runAll bodies).Serves body answers ended := by
  have hlast (name : TableName) (key : String) :
      LastSaved (saves name key (runAll bodies).done) (row? name key (runAll bodies).done) :=
    lastSaved_foldl_settle _
  refine ⟨sound_runAll bodies, hlast, fun name key earlier payload hsaves hunlike => ?_,
    fun body => ?_⟩
  · have hrow := hlast name key
    rw [hsaves] at hrow
    exact hrow.eq_last hunlike
  · exact ((sound_runAll bodies).next body).2

def number : Document := ⟨[("a", .integer 0)], by simp⟩

def truth : Document := ⟨[("a", .bool false)], by simp⟩

theorem equal_payload_not_written :
    let log := runAll [[.save .metrics "k" number], [.save .metrics "k" truth]]
    saves .metrics "k" log.done = [number.value, truth.value] ∧ number.value ≠ truth.value ∧
      (run log.database [.load? .metrics "k"]).1 = [.row (some number.value)] := by
  decide +kernel

end Log

end Scope

end MetricLedger.Storage
