import MetricLedger.DatabaseUrl.Location
import MetricLedger.Text.Digit
import MetricLedger.Text.Hex
import MetricLedger.Text.Percent

/-!
# Addresses of files

The name of a database may be an address of its own: `file:`, an authority that can only be this
machine, the path, and options that say how the file is opened.
-/

namespace MetricLedger.FileUri

/-- How a database is opened, from the narrowest way to the widest. -/
inductive Mode where
  | readOnly
  | readWrite
  | create
  | memory
deriving DecidableEq, Repr, Inhabited

namespace Mode

def ofLabel? : String → Option Mode
  | "ro" => some readOnly
  | "rw" => some readWrite
  | "rwc" => some create
  | "memory" => some memory
  | _ => none

def rank : Mode → Nat
  | readOnly => 0
  | readWrite => 1
  | create => 2
  | memory => 3

/-- A later mode may only narrow an earlier one, or give up the file. -/
def follows (later earlier : Mode) : Bool := later = memory || later.rank ≤ earlier.rank

end Mode

structure Request where
  mode : Mode := .create
  /-- The way of reaching files. -/
  system : String := "unix"
  /-- Whether the file is taken to change no more, if that was said. -/
  immutable? : Option Bool := none

def fileSystems : List String := ["unix", "unix-none", "unix-dotfile", "unix-excl"]

def memorySystem : String := "memdb"

def cacheModes : List String := ["shared", "private"]

/-- The bytes that a path may have where files are kept in memory. -/
def memoryPathLimit : Nat := 1016

def hexDigits? : List Char → Option (List Nat)
  | '0' :: x :: rest =>
    let digits := (rest.takeWhile (Text.hexValue? · |>.isSome)).filterMap Text.hexValue?
    if (x = 'x' ∨ x = 'X') ∧ digits ≠ [] then some digits else none
  | _ => none

/-- The number that a word begins with, in base sixteen or ten. One of more than 31 bits counts as
zero. -/
def leadingNumber (word : List Char) : Nat :=
  let n := match hexDigits? word with
    | some digits => digits.foldl (fun n digit => 16 * n + digit) 0
    | none => Text.asciiValue (word.takeWhile Char.isDigit)
  if n < 2 ^ 31 then n else 0

/-- Whether a word of an option means yes. A number does unless its last byte is zero. -/
def isYes (word : String) : Bool :=
  if (word.toList.head?.map Char.isDigit).getD false then leadingNumber word.toList % 256 ≠ 0
  else ["on", "yes", "true"].contains (String.ofList (word.toList.map Char.toLower))

example : isYes "0X0101" = true ∧ isYes "0xg" = false ∧ isYes "256x" = false := by decide

/-- Takes up an option, unless there is no such mode. The last way of reaching files counts, and the
first word on whether the file changes. -/
def Request.add (r : Request) (name value : String) : Option Request :=
  match name with
  | "mode" =>
    match Mode.ofLabel? value with
    | some mode => if mode.follows r.mode then some { r with mode := mode } else none
    | none => none
  | "cache" => if cacheModes.contains value then some r else none
  | "vfs" => some { r with system := value }
  | "immutable" =>
    some (if r.immutable?.isSome then r else { r with immutable? := some (isYes value) })
  | _ => some r

/-- A part of the address. A byte of zero ends it. -/
def decodePart (part : List Char) : String :=
  String.ofList ((Text.Percent.decode part).takeWhile (· ≠ Char.ofNat 0))

/-- The names and values of the options. One without a name is left out. -/
def optionsOf (text : List Char) : List (String × String) :=
  ((Text.splitAt '&' text).map fun part =>
    match Text.cutAt? '=' part with
    | some (name, value) => (decodePart name, decodePart value)
    | none => (decodePart part, "")).filter (·.1 ≠ "")

/-- What stands behind the authority, which is this machine or none. -/
def cutAuthority? : List Char → Option (List Char)
  | '/' :: '/' :: rest =>
    let authority := rest.takeWhile (· ≠ '/')
    if authority.isEmpty || authority = "localhost".toList then some (rest.dropWhile (· ≠ '/'))
    else none
  | text => some text

def request? (options : List (String × String)) : Option Request :=
  options.foldlM (fun r (name, value) => r.add name value) {}

def Request.locate (r : Request) (path : String) : Location :=
  let canWrite := r.mode ≠ .readOnly
  if !(memorySystem :: fileSystems).contains r.system then { place := .nowhere }
  else if r.mode = .memory then { place := .memory }
  else if path = "" ∨ path = Location.memoryName then { place := .memory, canWrite := canWrite }
  else
    let canWrite := canWrite && !r.immutable?.getD false
    if r.system = memorySystem then
      { place := if path.utf8ByteSize ≤ memoryPathLimit then .memory else .nowhere
        canWrite := canWrite }
    else
      { place := .file (Location.straight path.toList), canWrite := canWrite
        canCreate := r.mode = .create }

/-- The place of an address behind its `file:`. A fragment is left alone. -/
def locate (text : List Char) : Location :=
  match cutAuthority? text with
  | none => { place := .nowhere }
  | some text =>
    let text := text.takeWhile (· ≠ '#')
    let path := decodePart (text.takeWhile (· ≠ '?'))
    match request? (optionsOf ((text.dropWhile (· ≠ '?')).drop 1)) with
    | none => { place := .nowhere }
    | some request => request.locate path

example : locate "/tmp/a%2Fb?mode=rw&cache=private#c".toList =
    { place := .file "/tmp/a/b", canCreate := false } := by decide

end MetricLedger.FileUri
