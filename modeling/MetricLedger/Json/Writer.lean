import MetricLedger.Json.Value
import MetricLedger.Number.Integer
import MetricLedger.Number.Shortest
import MetricLedger.Text.Hex

/-!
# Writing JSON

The written form is ASCII: all other characters are escaped by their UTF-16 units. A document stands
on one line, or on many lines with two columns for each level.
-/

namespace MetricLedger.Json

open Text

def units16 (c : Char) : List Nat :=
  if c.toNat < 0x10000 then [c.toNat]
  else [0xd800 + (c.toNat - 0x10000) / 0x400, 0xdc00 + (c.toNat - 0x10000) % 0x400]

def escapeChar (c : Char) : List Char :=
  if c = '"' ∨ c = '\\' then ['\\', c]
  else if c = '\n' then ['\\', 'n']
  else if c = '\r' then ['\\', 'r']
  else if c = '\t' then ['\\', 't']
  else if c.toNat = 0x08 then ['\\', 'b']
  else if c.toNat = 0x0c then ['\\', 'f']
  else if 0x20 ≤ c.toNat ∧ c.toNat ≤ 0x7e then [c]
  else (units16 c).flatMap fun u => '\\' :: 'u' :: hex 4 u

def textChars (s : String) : List Char := '"' :: s.toList.flatMap escapeChar ++ ['"']

def realChars (x : Binary64) : List Char :=
  match x with
  | .infinite negative => if negative then "-Infinity".toList else "Infinity".toList
  | .nan => "NaN".toList
  | x => x.chars

namespace Value

mutual

def lineChars : Value → List Char
  | .null => "null".toList
  | .bool true => "true".toList
  | .bool false => "false".toList
  | .integer n => Integer.chars n
  | .real x => realChars x
  | .text s => textChars s
  | .array items => '[' :: lineItems items ++ [']']
  | .object members => '{' :: lineMembers members ++ ['}']

def lineItems : List Value → List Char
  | [] => []
  | [item] => lineChars item
  | item :: rest => lineChars item ++ ',' :: ' ' :: lineItems rest

def lineMembers : List (String × Value) → List Char
  | [] => []
  | [(name, value)] => textChars name ++ ':' :: ' ' :: lineChars value
  | (name, value) :: rest =>
    textChars name ++ ':' :: ' ' :: lineChars value ++ ',' :: ' ' :: lineMembers rest

end

def newline (level : Nat) : List Char := '\n' :: List.replicate (2 * level) ' '

mutual

/-- On many lines; `level` is the depth at which the value stands. -/
def pageChars (level : Nat) : Value → List Char
  | .array [] => "[]".toList
  | .array (item :: rest) =>
    '[' :: newline (level + 1) ++ pageItems (level + 1) (item :: rest) ++ newline level ++ [']']
  | .object [] => ['{', '}']
  | .object (member :: rest) =>
    '{' :: newline (level + 1) ++ pageMembers (level + 1) (member :: rest) ++ newline level ++ ['}']
  | v => v.lineChars

def pageItems (level : Nat) : List Value → List Char
  | [] => []
  | [item] => pageChars level item
  | item :: rest => pageChars level item ++ ',' :: newline level ++ pageItems level rest

def pageMembers (level : Nat) : List (String × Value) → List Char
  | [] => []
  | [(name, value)] => textChars name ++ ':' :: ' ' :: pageChars level value
  | (name, value) :: rest =>
    textChars name ++ ':' :: ' ' :: pageChars level value ++ ',' :: newline level ++
      pageMembers level rest

end

def line (v : Value) : String := String.ofList v.lineChars

def page (v : Value) : String := String.ofList (v.pageChars 0)

end Value

end MetricLedger.Json
