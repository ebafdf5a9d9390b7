import MetricLedger.Attributes
import MetricLedger.Json.Reader
import MetricLedger.Json.Writer
import MetricLedger.Text.Utf8

/-!
# Attributes of rates

The payload of a rate is a JSON object that names the token whose rate it is, and has nothing else.
If the name stands there more than once, the last one counts. What counts as JSON, also where the
strict grammar says otherwise, is what is assumed of the parser with `Json.ofText?`.
-/

namespace MetricLedger.RateAttributes

open Json (Value)

def field : String := "sttoken_denom"

def document (value : Value) : Payload := Text.Utf8.encode (Value.object [(field, value)]).line

def encode (denom : String) : Payload := document (.text denom)

def denomOf? : Value → Option String
  | .object members =>
    if members.all fun (name, _) => name = field then
      match members.getLast? with
      | some (_, .text denom) => some denom
      | _ => none
    else none
  | _ => none

def decode? (payload : Payload) : Option String :=
  ((Text.Utf8.decode? payload).bind Json.ofText?).bind denomOf?

end MetricLedger.RateAttributes
