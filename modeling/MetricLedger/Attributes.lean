import MetricLedger.Malformed
import MetricLedger.Text.Base64

/-!
# Attribute payloads

A metric may carry bytes that only its type gives a meaning to. They are stored in base 64.
-/

namespace MetricLedger

open Json (Value)

abbrev Payload := List UInt8

namespace Payload

def text (payload : Payload) : String := String.ofList (Text.Base64.encode payload)

def ofText (text : String) : Except Malformed Payload :=
  if text.toList.any fun c => 128 ≤ c.toNat then .error .unreadable
  else
    match Text.Base64.decode? text.toList with
    | some payload => .ok payload
    | none => .error .badBase64

def toStored (payload? : Option Payload) : Value := Value.ofOption (payload?.map text)

def ofStored : Value → Except Malformed (Option Payload)
  | .null => .ok none
  | .text s => (ofText s).map some
  | _ => .error .mismatch

end Payload

end MetricLedger
