import MetricLedger.CommandLine.Scan
import MetricLedger.LedgerConfig
import MetricLedger.Query
import MetricLedger.Settings
import MetricLedger.Submission

/-!
# Commands

What the arguments of a run ask for: flags for the settings, and one command with its arguments.

Where nothing is given for a value, the scan has no objection. A flag for an address or for the log
then counts as not given, and a text counts as empty where an empty one is refused anyway. Any other
command is broken: it fails when it is carried out.
-/

namespace MetricLedger.CommandLine

open Json (Value)

inductive Command where
  | init (config : LedgerConfig)
  | post (sender : String) (submission : Submission)
  | migrate
  | config
  | latest (key : String)
  | history (key : String) (limit : Value)
  | allLatest
  | rate (kind : RateKind) (denom : String)
  | rates (kind : RateKind) (denom : String) (limit : Value)
  | denomHash (denom channel : String)
  | broken (failure : Failure)
deriving DecidableEq, Repr, Inhabited

def Command.ofResult : Except Failure Command → Command
  | .ok command => command
  | .error failure => broken failure

structure Invocation where
  flags : Flags
  /-- Whether a capacity is asked for but nothing is given for it. -/
  lacksCapacity : Bool
  command : Command
deriving DecidableEq, Repr, Inhabited

/-- How a command is given. It is built from what was taken, if nothing that it needs is missing. -/
structure CommandForm where
  name : String
  form : Form
  build : Taken → Option Command

def globalForm : Form where
  options := [
    ⟨"--database-url", .text, []⟩,
    ⟨"--capacity", .integer, []⟩,
    ⟨"--log-level", .oneOf Refusal.logLevels, []⟩,
    ⟨"--log-format", .oneOf Refusal.logFormats, []⟩]
  positions := .command

def flagsOf (t : Taken) : Flags :=
  ⟨t.text? "--database-url", t.integer? "--capacity", t.text? "--log-level",
    t.text? "--log-format"⟩

def rateKindOf? (word : String) : Option RateKind :=
  if word = "redemption" then some .redemption
  else if word = "purchase" then some .purchase
  else none

def rateKindWords : Kind := .oneOf ["redemption", "purchase"]

/-! ## Writes -/

/-- A ledger for this admin, which is looked at before the channel. -/
def configFor (admin : String) : Option Argument → Except Failure LedgerConfig
  | none => .ok ⟨admin, none⟩
  | some (.text channel) => .ok ⟨admin, some channel⟩
  | some _ => .error (if admin = "" then .refused .emptyAdmin else .malformed .mismatch)

def initForm : CommandForm where
  name := "init"
  form := ⟨[{ name := "--admin" }, { name := "--channel-id" }], .named []⟩
  build t := do
    let admin ← t.find? "--admin"
    return .ofResult ((configFor admin.toText (t.find? "--channel-id")).map .init)

def attributesOf (t : Taken) : Except Failure (Option Payload) :=
  match t.find? "--denom", t.find? "--attributes" with
  | some denom, _ => .ok (some (RateAttributes.document denom.toValue))
  | none, none => .ok none
  | none, some (.text text) => .ok (some (Text.Utf8.encode text))
  | none, some _ => .error (.malformed .notText)

def typeOf : Argument → Except Failure MetricType
  | .text label => .ok (.ofLabel label)
  | _ => .error (.malformed .unnamedType)

def postForm : CommandForm where
  name := "post"
  form := ⟨[
    { name := "--sender" }, { name := "--key" }, { name := "--value" }, { name := "--type" },
    { name := "--update-time", kind := .integer },
    { name := "--block-height", kind := .integer },
    { name := "--denom", rivals := ["--attributes"] },
    { name := "--attributes", rivals := ["--denom"] }], .named []⟩
  build t := do
    let sender ← t.find? "--sender"
    let key ← t.find? "--key"
    let value ← t.find? "--value"
    let type ← t.find? "--type"
    let updateTime ← t.find? "--update-time"
    let blockHeight ← t.find? "--block-height"
    return .ofResult do
      let attributes ← attributesOf t
      let type ← typeOf type
      return .post sender.toText
        ⟨key.toText, value.toValue, type, updateTime.toValue, blockHeight.toValue, attributes⟩

def bareForm (name : String) (command : Command) : CommandForm :=
  ⟨name, ⟨[], .named []⟩, fun _ => some command⟩

/-! ## Queries -/

def latestForm : CommandForm where
  name := "latest"
  form := ⟨[], .named [("key", .text)]⟩
  build t := do return .latest (← t.find? "key").toText

def limitRule : Rule := { name := "--limit", kind := .integer }

def historyForm : CommandForm where
  name := "history"
  form := ⟨[limitRule], .named [("key", .text)]⟩
  build t := do return .history (← t.find? "key").toText (t.value "--limit")

def ratePositions : Positions := .named [("kind", rateKindWords), ("denom", .text)]

/-- What is said when rates are looked up under no denom at all. -/
def keylessError (kind : RateKind) : StorageError :=
  let table := (Store.rateTable kind).label
  .query table "get_by_id"
    ("Incorrect number of values in identifier to formulate primary key for session.get(); " ++
      s!"primary key columns are '{table}.denom'")

def denomFor (kind : RateKind) : Argument → Except Failure String
  | .text denom => .ok denom
  | _ => .error (.storage (keylessError kind))

def rateForm : CommandForm where
  name := "rate"
  form := ⟨[], ratePositions⟩
  build t := do
    let kind ← rateKindOf? (← t.text? "kind")
    let denom ← t.find? "denom"
    return .ofResult ((denomFor kind denom).map (.rate kind))

/-- The limit is looked at before the denom. -/
def ratesForm : CommandForm where
  name := "rates"
  form := ⟨[limitRule], ratePositions⟩
  build t := do
    let kind ← rateKindOf? (← t.text? "kind")
    let denom ← t.find? "denom"
    let limit := t.value "--limit"
    return .ofResult do
      let _ ← (Query.limit? limit).mapError Failure.refused
      return .rates kind (← denomFor kind denom) limit

def denomHashForm : CommandForm where
  name := "denom-hash"
  form := ⟨[], .named [("base_denom", .text), ("channel_id", .text)]⟩
  build t := do
    return .denomHash (← t.find? "base_denom").toText (← t.find? "channel_id").toValue.bare

def commandForms : List CommandForm := [
  initForm, postForm, bareForm "migrate" .migrate, bareForm "config" .config, latestForm,
  historyForm, bareForm "all-latest" .allLatest, rateForm, ratesForm, denomHashForm]

namespace Invocation

/-- The flags and the command, if the arguments are in order and nothing is left over. -/
def ofArguments (arguments : List String) : Except Stop Invocation := do
  let general ← globalForm.scan (arguments.map String.toList)
  match general.command with
  | none | some [] => throw .misuse
  | some (name :: words) =>
    match commandForms.find? (·.name.toList = name) with
    | none => throw .misuse
    | some form =>
      let taken ← form.form.scan words
      if general.strays || taken.strays then throw .misuse
      match form.build taken with
      | none => throw .misuse
      | some command =>
        return ⟨flagsOf general, general.find? "--capacity" = some .nothing, command⟩

def settings (i : Invocation) (e : Environment) : Except Failure Settings :=
  if i.lacksCapacity then
    match Settings.ofEnvironment e with
    | .error refusal => .error (.refused refusal)
    | .ok _ => .error (.malformed .mismatch)
  else (Settings.build e i.flags).mapError .refused

end Invocation

end MetricLedger.CommandLine
