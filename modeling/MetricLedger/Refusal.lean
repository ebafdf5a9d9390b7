import MetricLedger.Denom
import MetricLedger.MetricType
import MetricLedger.Rate
import MetricLedger.Report

/-!
# Why the ledger refuses

The causes for which the ledger does not do what it is asked to do, and the report of each.
-/

namespace MetricLedger

inductive RequestFault where
  | emptyKey
  | notWord (field : String)
  | hasParams
  | badLimit
deriving DecidableEq, Repr, Inhabited

def RequestFault.reason : RequestFault → String
  | emptyKey => "metric key must not be empty"
  | notWord field => s!"{field} must be an unsigned 64-bit integer"
  | hasParams => "params must be None"
  | badLimit => "limit must be a non-negative integer"

inductive Refusal where
  | notInstantiated
  | alreadyInstantiated
  | emptyAdmin
  | badChannel (channel : String)
  | otherContract (stored : String) (running : Option String)
  | notNewer (stored : String) (running : Option String)
  | smallCapacity (capacity : Int)
  | unreadCapacity (text : String)
  | unknownLevel (level : String)
  | unknownFormat (format : String)
  | unauthorized (sender : Option String)
  | notFound (store key : String)
  | badRequest (fault : RequestFault)
  | missingMetadata (type : MetricType)
  | invalidMetadata (type : MetricType)
  | invalidValue (value : String) (fault : RateFault)
  | badDenom (fault : DenomFault)
  | hashedDenom (denom : String)
deriving DecidableEq, Repr, Inhabited

namespace Refusal

open Json (Value)

def logLevels : List String := ["DEBUG", "INFO", "WARNING", "ERROR", "CRITICAL"]

def logFormats : List String := ["text", "json"]

def report : Refusal → Report
  | notInstantiated => .configuration "ledger is not instantiated" "" .null none []
  | alreadyInstantiated => .configuration "ledger is already instantiated" "" .null none []
  | emptyAdmin => .configuration "admin_address must not be empty" "admin_address" .null none []
  | badChannel channel => .channelId (.text channel)
  | otherContract stored running => .contract (.text stored) (Value.ofOption running)
  | notNewer stored running => .contractVersion (.text stored) (Value.ofOption running)
  | smallCapacity capacity =>
    .configuration "history capacity must be at least 1" "LEDGER_HISTORY_CAPACITY"
      (.integer capacity) none []
  | unreadCapacity text =>
    .configuration "history capacity must be an integer" "LEDGER_HISTORY_CAPACITY"
      (.text text) none []
  | unknownLevel level =>
    .configuration ("log level must be one of " ++ ", ".intercalate logLevels) "LOG_LEVEL"
      (.text level) none []
  | unknownFormat format =>
    .configuration ("log format must be one of " ++ ", ".intercalate logFormats) "LOG_FORMAT"
      (.text format) none []
  | unauthorized sender => .unauthorized (Value.ofOption sender)
  | notFound store key => .notFound (.text store) (.text key)
  | badRequest fault => .request (.text fault.reason)
  | missingMetadata type => .missingMetadata type.label
  | invalidMetadata type => .invalidMetadata type.label ""
  | invalidValue value fault => .invalidValue value (.text fault.reason)
  | badDenom fault => .invalidDenom (.text fault.reason)
  | hashedDenom denom => .hashedDenom (.text denom)

end Refusal

namespace Denom

def check (denom : String) : Except Refusal Unit :=
  match fault? (.ofString denom) with
  | some fault => .error (.badDenom fault)
  | none => .ok ()

/-- The name of a native token on the other side of a channel. A token that came over a channel
itself has none. -/
def hashOver (denom channel : String) : Except Refusal String := do
  if isHashed (.ofString denom) then throw (.hashedDenom denom)
  check denom
  return hashed denom channel

end Denom

end MetricLedger
