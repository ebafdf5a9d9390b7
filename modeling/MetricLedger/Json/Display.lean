import MetricLedger.Json.Value
import MetricLedger.Number.Integer
import MetricLedger.Number.Shortest
import MetricLedger.Text.Quoted

/-!
# How messages show a value

Text is quoted, lists stand in brackets and members in braces; the three constants are words.
-/

namespace MetricLedger.Json.Value

open Text

mutual

def displayChars : Value → List Char
  | .null => "None".toList
  | .bool true => "True".toList
  | .bool false => "False".toList
  | .integer n => Integer.chars n
  | .real x => x.chars
  | .text s => quotedChars s.toList
  | .array items => '[' :: displayItems items ++ [']']
  | .object members => '{' :: displayMembers members ++ ['}']

def displayItems : List Value → List Char
  | [] => []
  | [item] => displayChars item
  | item :: rest => displayChars item ++ ',' :: ' ' :: displayItems rest

def displayMembers : List (String × Value) → List Char
  | [] => []
  | [(name, value)] => quotedChars name.toList ++ ':' :: ' ' :: displayChars value
  | (name, value) :: rest =>
    quotedChars name.toList ++ ':' :: ' ' :: displayChars value ++ ',' :: ' ' ::
      displayMembers rest

end

def display (v : Value) : String := String.ofList v.displayChars

/-- Text as it is, any other value as it is displayed. -/
def bare : Value → String
  | .text s => s
  | v => v.display

end MetricLedger.Json.Value
