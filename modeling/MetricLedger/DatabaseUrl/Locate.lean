import MetricLedger.DatabaseUrl.DriverOptions
import MetricLedger.DatabaseUrl.FileUri
import MetricLedger.DatabaseUrl.Scheme

/-!
# Where an address leads to

An address is settled in steps, and the first step that fails gives the fault: its form, its plugins,
its scheme, its server, the options for the driver, and the name of the database.
-/

namespace MetricLedger.DatabaseUrl

open DriverOptions

/-- The values of an option as they stand in the name of the database. -/
def showValues : List String → String
  | [text] => text
  | texts => "(" ++ ", ".intercalate (texts.map Text.quoted) ++ ")"

/-- The name of a database whose name is an address: the other options are put behind it. There may
be none at all, but then there is nothing to put them behind. -/
def uriName (url : DatabaseUrl) : Except Malformed (Option String) :=
  match others url.options, url.database with
  | [], database => .ok database
  | _, none => .error .mismatch
  | options, some database =>
    let shown := options.map fun (name, values) => s!"{name}={showValues values}"
    .ok (some (database ++ "?" ++ "&".intercalate shown))

def locateUri (name : String) : Location :=
  match name.toList with
  | 'f' :: 'i' :: 'l' :: 'e' :: ':' :: text => FileUri.locate text
  | _ => .ofName name

def isWhole (name : String) : Bool := !name.toList.contains (Char.ofNat 0)

def opened (url : DatabaseUrl) (o : DriverOptions) : Except Malformed Location := do
  let name? ← if o.usesUri then uriName url else .ok (some (url.database.getD ""))
  o.check
  match name? with
  | none => throw .mismatch
  | some name =>
    if !isWhole name then throw .unreadable
    return if o.usesUri then locateUri name else .ofName name

def locate (text : String) : Except Malformed Location := do
  let url ← ofText text
  if (url.options.lookup "plugin").isSome then throw .unknownScheme
  Scheme.check url.scheme
  if url.isServed then throw .badAddress
  opened url (← DriverOptions.ofOptions url.options)

example : (locate "sqlite:////tmp/ledger.db?timeout=5").toOption =
    some { place := .file "/tmp/ledger.db" } := by decide +kernel

example : (locate "sqlite://:memory:").toOption = none := by decide +kernel

end MetricLedger.DatabaseUrl
