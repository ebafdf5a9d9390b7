import MetricLedger.Acknowledgment
import MetricLedger.LedgerConfig
import MetricLedger.Query
import MetricLedger.Storage.Config
import MetricLedger.Submission
import MetricLedger.Version

/-!
# The service

Each call is a transaction of its own: what it wrote is kept if it succeeds, and otherwise nothing
of it is. The configuration is recorded once; from then on the recorded admin may post metrics.
-/

namespace MetricLedger

open Json (Value)
open Storage (Action Database ConfigRow)

/-- What runs. A service without a name or a version can neither be recorded nor follow another
one. -/
structure Service where
  /-- The capacity of new histories. -/
  capacity : Int := 100
  contractName : Option String := some "oracle-ledger"
  contractVersion : Option String := some "1.0.1"
deriving DecidableEq, Repr, Inhabited

abbrev Call (α : Type) := Database → Except Failure α × Database

namespace Service

def call {α : Type} (action : Action α) : Call α := fun db => db.transaction action

/-- The recorded row, without which nothing can be done. -/
def configRow : Action ConfigRow := do
  match ← Storage.Config.load? with
  | some row => return row
  | none => Action.refuse .notInstantiated

def record (s : Service) (config : LedgerConfig) : Action Acknowledgment := do
  if (← Storage.Config.load?).isSome then Action.refuse .alreadyInstantiated
  let _ ← Storage.Config.save (some config.admin) config.channel s.contractName s.contractVersion
  return .instantiated config.admin config.channel

/-- Records who may post. What is to be recorded is checked before the database is used. -/
def instantiate (s : Service) (config : LedgerConfig) : Call Acknowledgment :=
  match config.check with
  | .ok () => call (s.record config)
  | .error refusal => fun db => (.error (.refused refusal), db)

def post (s : Service) (sender : Option String) (submission : Submission) : Call Acknowledgment :=
  call do
    if sender ≠ some (← configRow).admin then Action.refuse (.unauthorized sender)
    return .posted (← submission.submit s.capacity)

/-- Whether the version that is recorded may be followed by this one. -/
def precedes (recorded running : String) : Bool :=
  match Version.ofText? recorded, Version.ofText? running with
  | some v, some w => v < w
  | _, _ => false

/-- The running version, if it may follow the recorded one. -/
def successor (recorded : String) (running : Option String) : Except Failure String :=
  match Version.ofText? recorded, running with
  | some _, some version =>
    if precedes recorded version then .ok version
    else .error (.refused (.notNewer recorded running))
  | some _, none => .error (.malformed .notText)
  | none, _ => .error (.refused (.notNewer recorded running))

/-- Records the running version in the place of an older one. -/
def migrate (s : Service) : Call Acknowledgment :=
  call do
    let row ← configRow
    if some row.contractName ≠ s.contractName then
      Action.refuse (.otherContract row.contractName s.contractName)
    let version ← Action.ofResult (successor row.contractVersion s.contractVersion)
    Storage.Config.setVersion (some version)
    return .migrated row.contractVersion version

def config : Call LedgerConfig :=
  call do
    let row ← configRow
    return ⟨row.admin, row.channel⟩

def latestMetric (key : String) : Call Metric := call (Query.latestMetric key)

def historicalMetrics (key : String) (limit : Value) : Call (List Metric) :=
  call (Query.historicalMetrics key limit)

def allLatestMetrics : Call (List Metric) := call Query.allLatestMetrics

def latestRate (kind : RateKind) (denom : String) (params : Value) : Call RateRecord :=
  call (Query.latestRate kind denom params)

def historicalRates (kind : RateKind) (denom : String) (params limit : Value) :
    Call (List RateRecord) :=
  call (Query.historicalRates kind denom params limit)

end Service

end MetricLedger
