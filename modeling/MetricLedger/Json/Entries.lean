import MetricLedger.Json.Field
import MetricLedger.Json.Writer

/-!
# Objects from pairs

Pairs of values make an object: the first part of each pair is a name, and pairs with the same name
are one, which has the first name and the last value. A name that is no text is written as one.
-/

namespace MetricLedger.Json

abbrev Entries := List (Value × Value)

namespace Entries

/-- Sets the value of that name, in its place or at the end. -/
def put (entries : Entries) (name value : Value) : Entries :=
  match entries with
  | [] => [(name, value)]
  | (other, old) :: rest =>
    if other.same name then (other, value) :: rest else (other, old) :: put rest name value

/-- A name and a value, from what runs through just these two. Arrays and objects are no names. -/
def ofPair (v : Value) : Except Malformed (Value × Value) := do
  match ← v.elements with
  | [.array _, _] | [.object _, _] => throw .mismatch
  | [name, value] => return (name, value)
  | _ => throw .unreadable

/-- The members of an object, or the pairs that a value runs through. -/
def ofValue : Value → Except Malformed Entries
  | .object members => .ok (members.map fun (name, value) => (.text name, value))
  | v => do
    let pairs ← (← v.elements).mapM ofPair
    return pairs.foldl (fun entries (name, value) => entries.put name value) []

def written : Value → String
  | .text s => s
  | name => name.line

/-- The object; names that are written alike are one. -/
def toObject (entries : Entries) : Value :=
  .object (Value.merge (entries.map fun (name, value) => (written name, value)))

/-- Whether an object has just these entries. A name that is no text is in no object. -/
def sameAs (entries : Entries) (v : Value) : Bool :=
  match v with
  | .object members =>
    members.length == entries.length && entries.all fun (name, value) =>
      match name with
      | .text s => (members.lookup s).any value.same
      | _ => false
  | _ => false

end Entries

end MetricLedger.Json
