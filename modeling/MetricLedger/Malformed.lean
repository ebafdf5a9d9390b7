import MetricLedger.Json.Display
import MetricLedger.Number.Decimal
import MetricLedger.RateKind

/-!
# What can be wrong with a value

The causes for which a JSON value is no metric, no rate, no type and no series, and a text no address
of a database. Those with a wording of the ledger's own have a message.
-/

namespace MetricLedger

open Json (Value)

inductive Malformed where
  /-- A field that an object should have. -/
  | missing (field : String)
  /-- A value that is of no suitable kind. -/
  | mismatch
  /-- Something else where a text is to be taken apart. -/
  | notText
  /-- A value of a suitable kind that cannot be read. -/
  | unreadable
  | unknownType (found : Value)
  | unnamedType
  | namedRate (kind : RateKind)
  | notDecimal (found : Value)
  | unordered
  | badBase64
  /-- A number that is not finite, or too great, where a machine integer is wanted. -/
  | unbounded
  /-- A rate that has no canonical text. -/
  | unwritable (rate : Decimal)
  /-- A text that is no address. -/
  | badAddress
  /-- An address of a kind that is not known. -/
  | unknownScheme
  /-- An address of a kind that only a driver can reach that is not there. -/
  | missingDriver
  /-- An address that names something else as its driver. -/
  | noDriver
  /-- An address of data that can only be read, where something has to be written. -/
  | readOnly
deriving DecidableEq, Repr, Inhabited

namespace Malformed

def message? : Malformed → Option String
  | missing field => some (Text.quoted field)
  | unknownType found => some s!"Unknown metric type: {found.display}"
  | unnamedType => some "Other metric type requires a string name"
  | namedRate kind => some s!"{kind.label} metric type does not take a name"
  | notDecimal found => some s!"stored rate is not a decimal: {found.display}"
  | unordered => some "stored items are not strictly ascending by time"
  | badBase64 => some "attributes are not valid base64"
  | mismatch | notText | unreadable | unbounded | unwritable _ => none
  | badAddress | unknownScheme | missingDriver | noDriver | readOnly => none

/-- Whether the fault makes a stored row unreadable. The others are faults of arithmetic, or lie with
the caller. -/
def isUnreadable : Malformed → Bool
  | notText | unbounded | unwritable _ => false
  | badAddress | unknownScheme | missingDriver | noDriver | readOnly => false
  | _ => true

end Malformed

end MetricLedger
