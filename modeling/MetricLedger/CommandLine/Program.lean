import MetricLedger.CommandLine.Command
import MetricLedger.DatabaseUrl.Locate
import MetricLedger.Service

/-!
# Runs of the program

A run prints one document and succeeds, or says what is wrong and fails. A run breaks off when a
value is malformed, which is not foreseen. Everything but the work on the database is settled by the
arguments and the environment alone. All of these are Unicode texts here: bytes of an argument that
are no UTF-8 are left out.
-/

namespace MetricLedger.CommandLine

open Json (Value)
open Storage (Database)

inductive Exit where
  | printed (out : String)
  | failed (err : String)
  | broken (fault : Malformed)
  | stopped (code : UInt32)
deriving DecidableEq, Repr, Inhabited

/-- What a run has still to do when arguments and environment were looked at. -/
inductive Plan where
  | finished (exit : Exit)
  | work (location : Location) (capacity : Int) (command : Command)
deriving Repr, Inhabited

def errorLine (text : String) : String := s!"error: {text}\n"

def failed : Failure → Exit
  | .refused refusal => .failed (errorLine refusal.report.message)
  | .storage error => .failed (errorLine error.report.line)
  | .malformed fault => .broken fault

def Stop.code : Stop → UInt32
  | help => 0
  | misuse => 2

def hashDocument (hashed : String) : String :=
  (Value.object [("ibc_denom", .text hashed)]).line ++ "\n"

def plan (environment : Environment) (arguments : List String) : Plan :=
  match Invocation.ofArguments arguments with
  | .error stop => .finished (.stopped stop.code)
  | .ok invocation =>
    match invocation.command with
    | .denomHash denom channel =>
      match Denom.hashOver denom channel with
      | .ok hashed => .finished (.printed (hashDocument hashed))
      | .error refusal => .finished (failed (.refused refusal))
    | command =>
      match invocation.settings environment with
      | .error failure => .finished (failed failure)
      | .ok settings =>
        match DatabaseUrl.locate settings.databaseUrl with
        | .ok location => .work location settings.capacity command
        | .error fault => .finished (.broken fault)

def answered {α : Type} (call : Call α) (answer : α → Except Malformed Value) : Call Value :=
  fun db =>
    let (result, db) := call db
    (result.bind fun x => (answer x).mapError .malformed, db)

def metricsAnswer (metrics : List Metric) : Value :=
  .object [("metrics", .array (metrics.map Metric.toStored))]

def ratesAnswer (kind : RateKind) (records : List RateRecord) : Except Malformed Value := do
  return .object [(kind.label ++ "s", .array (← records.mapM RateRecord.toStored))]

def Command.call (service : Service) : Command → Call Value
  | init ledger => answered (service.instantiate ledger) (.ok ∘ Acknowledgment.toObject)
  | post sender submission =>
    answered (service.post (some sender) submission) (.ok ∘ Acknowledgment.toObject)
  | migrate => answered service.migrate (.ok ∘ Acknowledgment.toObject)
  | config => answered Service.config (.ok ∘ LedgerConfig.toAnswer)
  | latest key => answered (Service.latestMetric key) (.ok ∘ Metric.toStored)
  | history key limit =>
    answered (Service.historicalMetrics key limit) (.ok ∘ metricsAnswer)
  | allLatest => answered Service.allLatestMetrics (.ok ∘ metricsAnswer)
  | rate kind denom => answered (Service.latestRate kind denom .null) RateRecord.toAnswer
  | rates kind denom limit =>
    answered (Service.historicalRates kind denom .null limit) (ratesAnswer kind)
  | denomHash denom channel => fun db =>
    (((Denom.hashOver denom channel).map .text).mapError .refused, db)
  | broken failure => fun db => (.error failure, db)

/-- Creates the tables that are missing, and then does the work. Where nothing can be written, the
tables have to be there. -/
def Plan.run (plan : Plan) (db : Database) : Exit × Database :=
  match plan with
  | .finished exit => (exit, db)
  | .work location capacity command =>
    let db := { db with isFrozen := !location.canWrite }
    if db.isFrozen && db.tables?.isNone then (.broken .readOnly, db)
    else
      match command.call { capacity := capacity } db.create with
      | (.ok answer, db) => (.printed (answer.page ++ "\n"), db)
      | (.error e, db) => (failed e, db)

def run (environment : Environment) (arguments : List String) (db : Database) :
    Exit × Database :=
  (plan environment arguments).run db

end MetricLedger.CommandLine
