import MetricLedger.Json.Display
import MetricLedger.Text.Case

/-!
# Reports of refusals

What the ledger says when it refuses something: the category, a message, how severe it is, and a
context of names and values in order. A category lies in a broader one, up to the most general.
-/

namespace MetricLedger

open Json (Value)

inductive Severity where
  | low
  | medium
  | high
deriving DecidableEq, Repr, Inhabited

def Severity.label : Severity → String
  | low => "low"
  | medium => "medium"
  | high => "high"

inductive Category where
  | general
  | configuration
  | channelId
  | contract
  | contractVersion
  | unauthorized
  | notFound
  | request
  | submission
  | missingMetadata
  | invalidMetadata
  | invalidValue
  | denom
  | invalidDenom
  | hashedDenom
deriving DecidableEq, Repr, Inhabited

namespace Category

def label : Category → String
  | general => "OracleException"
  | configuration => "ConfigurationError"
  | channelId => "InvalidChannelIdError"
  | contract => "InvalidContractError"
  | contractVersion => "InvalidContractVersionError"
  | unauthorized => "UnauthorizedError"
  | notFound => "NotFoundError"
  | request => "InvalidRequestError"
  | submission => "SubmissionError"
  | missingMetadata => "MissingMetadataError"
  | invalidMetadata => "InvalidMetadataError"
  | invalidValue => "InvalidValueError"
  | denom => "DenomError"
  | invalidDenom => "InvalidDenomError"
  | hashedDenom => "InvalidRedemptionRateDenomError"

/-- The categories that hold a category, from itself to the most general one. -/
def lineage : Category → List Category
  | general => [general]
  | configuration => [configuration, general]
  | channelId => [channelId, configuration, general]
  | contract => [contract, configuration, general]
  | contractVersion => [contractVersion, configuration, general]
  | unauthorized => [unauthorized, general]
  | notFound => [notFound, general]
  | request => [request, general]
  | submission => [submission, general]
  | missingMetadata => [missingMetadata, submission, general]
  | invalidMetadata => [invalidMetadata, submission, general]
  | invalidValue => [invalidValue, submission, general]
  | denom => [denom, general]
  | invalidDenom => [invalidDenom, denom, general]
  | hashedDenom => [hashedDenom, denom, general]

/-- How severe a refusal of the category is, unless something else is said. -/
def severity : Category → Severity
  | configuration | channelId | contract | contractVersion => .high
  | notFound | request | denom | invalidDenom | hashedDenom => .low
  | _ => .medium

end Category

structure Report where
  category : Category
  message : String
  severity : Severity
  context : List (String × Value)
deriving DecidableEq, Repr, Inhabited

namespace Report

/-- Texts in a context are cut after so many characters. -/
def valueLimit : Nat := 100

def reasonLimit : Nat := 200

def cut (limit : Nat) (text : String) : String := String.ofList (text.toList.take limit)

def logLine (r : Report) : String :=
  let entries := r.context.map fun (name, value) => s!"{name}={value.bare}"
  let line := s!"[{Text.upper r.severity.label}] {r.category.label}: {r.message}"
  if r.context.isEmpty then line else line ++ " | " ++ ", ".intercalate entries

/-! ## One report for each category -/

/-- A report of a category that leaves message and context to the caller. -/
def plain (category : Category) (message : String) (severity? : Option Severity)
    (context : List (String × Value)) : Report :=
  ⟨category, message, severity?.getD category.severity, context⟩

def ofTexts (category : Category) (message : String) (context : List (String × String)) : Report :=
  plain category message none (context.map fun (name, text) => (name, .text text))

/-- A setting is named if its name is not empty, and its value shown if there is one. -/
def settingContext (key : String) (actual : Value) (context : List (String × Value)) :
    List (String × Value) :=
  let named := if key = "" then context else Json.put context "config_key" (.text key)
  if actual.isNull then named
  else Json.put named "actual_value" (.text (cut valueLimit actual.bare))

def configuration (message key : String) (actual : Value) (severity? : Option Severity)
    (context : List (String × Value)) : Report :=
  plain .configuration message severity? (settingContext key actual context)

def channelId (channel : Value) : Report :=
  plain .channelId s!"Invalid channelID: {channel.bare}" none
    (settingContext "transfer_channel_id" channel [])

def contract (stored expected : Value) : Report :=
  plain .contract "Cannot upgrade to a different contract" none
    [("stored_name", stored), ("expected_name", expected)]

def contractVersion (stored running : Value) : Report :=
  plain .contractVersion "Invalid contract version" none
    [("stored_version", stored), ("running_version", running)]

def unauthorized (sender : Value) : Report :=
  plain .unauthorized "Unauthorized" none [("sender", sender)]

def notFound (store key : Value) : Report :=
  plain .notFound s!"{store.bare} not found for {key.bare}" none [("store", store), ("key", key)]

def request (reason : Value) : Report :=
  plain .request s!"invalid query request - {reason.bare}" none [("reason", reason)]

def missingMetadata (type : String) : Report :=
  ofTexts .missingMetadata
    s!"The provided metric (type {type}) does not contain required attributes"
    [("metric_type", type)]

/-- A reason is shown if it is not empty. -/
def invalidMetadata (type reason : String) : Report :=
  ofTexts .invalidMetadata s!"The provided metric (type {type}) has invalid metadata attributes"
    (("metric_type", type) ::
      if reason = "" then [] else [("reason", cut reasonLimit reason)])

def invalidValue (value : String) (reason : Value) : Report :=
  plain .invalidValue s!"Invalid decimal value {Text.quoted value}: {reason.bare}" none
    [("value", .text (cut valueLimit value)), ("reason", reason)]

def invalidDenom (reason : Value) : Report :=
  plain .invalidDenom s!"Invalid denom: {reason.bare}" none [("reason", reason)]

def hashedDenom (denom : Value) : Report :=
  plain .hashedDenom
    s!"The denom for the redemption rate metric must not be an IBC denom, {denom.bare} provided"
    none [("denom", denom)]

end Report

end MetricLedger
