import MetricLedger.Failure
import MetricLedger.Storage.Column
import MetricLedger.Storage.Database

/-!
# Sessions

A session works on a view of the database, which nobody else sees until the session commits. Rows
may be staged; they enter the view at the next write or commit. A write or a commit that the database
rejects makes the view useless until the session is rolled back. What is done in a session changes its
view only; so a transaction that fails leaves the database as it was.
-/

namespace MetricLedger.Storage

open Json (Value)

structure StagedRow where
  table : TableName
  key : String
  value : Value

inductive CommitFault where
  /-- A write was rejected, and the session was not rolled back since. -/
  | unusable
  /-- The key of a staged row is taken. -/
  | taken
  /-- A row is staged where there are no tables. -/
  | noTables
  /-- A row is staged where nothing can be written. -/
  | frozen
deriving DecidableEq, Repr, Inhabited

/-- What a session sees of the database. -/
structure View where
  tables? : Option Tables
  staged : List StagedRow
  usable : Bool
  isFrozen : Bool

namespace View

def ofDatabase (db : Database) : View := ⟨db.tables?, [], true, db.isFrozen⟩

/-- Adds staged rows in order, unless one of the keys is taken. -/
def insertStaged (tables : Tables) : List StagedRow → Option Tables
  | [] => some tables
  | row :: rest =>
    match (tables.table row.table).insert? row.key (Column.keep row.value) with
    | some table => insertStaged (tables.setTable row.table table) rest
    | none => none

/-- The database that the view amounts to, with the staged rows in it. -/
def toDatabase (v : View) : Except CommitFault Database :=
  if !v.usable then .error .unusable
  else if v.staged.isEmpty then .ok ⟨v.tables?, v.isFrozen⟩
  else
    match v.tables? with
    | none => .error .noTables
    | some tables =>
      if v.isFrozen then .error .frozen
      else
        match insertStaged tables v.staged with
        | some tables => .ok ⟨some tables, v.isFrozen⟩
        | none => .error .taken

end View

/-- What is done in a session. It may fail, and then leaves the view as far as it got. -/
abbrev Action (α : Type) := ExceptT Failure (StateM View) α

namespace Action

def fail {α : Type} (error : StorageError) : Action α := throw (.storage error)

def refuse {α : Type} (refusal : Refusal) : Action α := throw (.refused refusal)

def ofExcept {α : Type} : Except Malformed α → Action α
  | .ok x => pure x
  | .error fault => throw (.malformed fault)

def ofResult {α : Type} : Except Failure α → Action α
  | .ok x => pure x
  | .error failure => throw failure

def ofChecked {α : Type} : Except Refusal α → Action α
  | .ok x => pure x
  | .error refusal => refuse refusal

def tables (repository operation : String) : Action Tables := do
  let v ← get
  if v.usable then
    match v.tables? with
    | some tables => return tables
    | none => fail (.connection repository operation "no such table")
  else fail (.query repository operation "the session has to be rolled back")

/-- What the database does not accept. -/
def reject {α : Type} (repository operation reason : String) : Action α := do
  modify fun v => { v with usable := false }
  fail (.query repository operation reason)

/-- Puts new tables in place, and the staged rows into them. -/
def write (repository operation : String) (tables : Tables) : Action Unit := do
  let v ← get
  if v.isFrozen then reject repository operation "the data can only be read"
  match View.insertStaged tables v.staged with
  | some tables => set { v with tables? := some tables, staged := [] }
  | none => reject repository operation "a key is taken"

end Action

structure Session where
  committed : Database
  view : View

namespace Session

def begin (db : Database) : Session := ⟨db, .ofDatabase db⟩

def perform {α : Type} (s : Session) (action : Action α) : Except Failure α × Session :=
  let (result, view) := action.run s.view
  (result, { s with view := view })

def rollback (s : Session) : Session := begin s.committed

def commitError : StorageError :=
  .transaction "transaction_scope" "commit" "commit" "the changes were rejected"

def commit (s : Session) : Except CommitFault Unit × Session :=
  match s.view.toDatabase with
  | .ok db => (.ok (), begin db)
  | .error fault => (.error fault, { s with view := { s.view with usable := false } })

/-- Ends a session: after a success it is committed, after a failure rolled back. -/
def finish {α : Type} (s : Session) (result : Except Failure α) : Except Failure α × Database :=
  match result with
  | .ok x =>
    match s.commit with
    | (.ok (), s) => (.ok x, s.committed)
    | (.error _, s) => (.error (.storage commitError), s.committed)
  | .error e => (.error e, s.committed)

end Session

def Database.openError : StorageError :=
  .connection "database" "verify" "unable to open database file"

/-- Does an action in a session of its own. It is committed if it succeeds, and otherwise nothing
of it remains. -/
def Database.transaction {α : Type} (db : Database) (action : Action α) :
    Except Failure α × Database :=
  let (result, s) := (Session.begin db).perform action
  s.finish result

theorem Session.committed_of_commit_error {s s' : Session} {fault : CommitFault}
    (h : s.commit = (.error fault, s')) : s'.committed = s.committed := by
  unfold commit at h
  split at h
  · simp at h
  · rw [← (Prod.mk.inj h).2]

theorem Database.transaction_of_error {α : Type} {db : Database} {action : Action α}
    {e : Failure} (h : (db.transaction action).1 = .error e) : (db.transaction action).2 = db := by
  simp only [transaction, Session.perform, Session.finish] at *
  split
  · split
    · simp_all
    · rename_i hs
      exact Session.committed_of_commit_error hs
  · rfl

end MetricLedger.Storage
