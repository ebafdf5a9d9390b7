import MetricLedger.DatabaseUrl
import MetricLedger.Number.Real

/-!
# Options for the driver

Some options of an address are for the driver. Each has a type, and a value that is not of it makes
the address useless. What is left is for the database itself.
-/

namespace MetricLedger

structure DriverOptions where
  /-- Whether the name of the database is an address again. -/
  usesUri : Bool
  detectTypes : Int
  /-- The names of levels of isolation; a single one has no effect. -/
  isolation : List String
  cachedStatements : Int

namespace DriverOptions

def trueWords : List String := ["true", "yes", "on", "y", "t", "1"]

def falseWords : List String := ["false", "no", "off", "n", "f", "0"]

/-- A truth value is a word in any case; several values count as true. -/
def boolOf : List String → Except Malformed Bool
  | [text] =>
    let word := Text.lower (String.ofList (Text.trim Text.isBlank text.toList))
    if trueWords.contains word then .ok true
    else if falseWords.contains word then .ok false
    else .error .unreadable
  | _ => .ok true

def integerOf : List String → Except Malformed Int
  | [text] =>
    match Integer.ofText? text with
    | some n => .ok n
    | none => .error .unreadable
  | _ => .error .mismatch

/-- How long to wait does not matter, but it has to be a number. -/
def checkReal : List String → Except Malformed Unit
  | [text] => if Real.isReal text then .ok () else .error .unreadable
  | _ => .error .mismatch

def read {α : Type} (options : UrlOptions) (name : String) (absent : α)
    (decode : List String → Except Malformed α) : Except Malformed α :=
  match options.lookup name with
  | some values => decode values
  | none => .ok absent

/-- The options in the order in which they are looked at. -/
def ofOptions (options : UrlOptions) : Except Malformed DriverOptions := do
  let usesUri ← read options "uri" false boolOf
  read options "timeout" () checkReal
  let isolation := (options.lookup "isolation_level").getD []
  let detectTypes ← read options "detect_types" 0 integerOf
  let _ ← read options "check_same_thread" false boolOf
  let cachedStatements ← read options "cached_statements" 0 integerOf
  return ⟨usesUri, detectTypes, isolation, cachedStatements⟩

def names : List String := [
  "uri", "timeout", "isolation_level", "detect_types", "check_same_thread", "cached_statements"]

/-- The options that are not for the driver, in the order of their names. Those that ask for plugins
were settled before. -/
def others (options : UrlOptions) : UrlOptions :=
  (options.filter fun (name, _) => !names.contains name && name ≠ "plugins").mergeSort
    fun x y => x.1 ≤ y.1

def isMachineInt (n : Int) : Bool := -(2 ^ 31) ≤ n && n < 2 ^ 31

/-- What is looked at only when a connection is made. -/
def check (o : DriverOptions) : Except Malformed Unit :=
  if !isMachineInt o.detectTypes then .error .unbounded
  else if o.isolation.length > 1 then .error .unreadable
  else if !isMachineInt o.cachedStatements then .error .unbounded
  else .ok ()

end DriverOptions

end MetricLedger
