import MetricLedger.Json.Value
import MetricLedger.Number.Integer
import MetricLedger.Text.Split

/-!
# Scanning arguments

An argument that starts with a dash is an option, unless it is the dash alone, a negative number or
has a blank in it. Options may be shortened as long as they stay unique, and may bring their value
along behind an equals sign. After a divider of two dashes nothing is an option. The roles of all
arguments are settled before the first one is taken.

The mark of the divider is no value: where it stands for one, something was given but it is nothing.
Only directly behind the divider itself it is a text like any other.
-/

namespace MetricLedger.CommandLine

inductive Kind where
  | text
  | integer
  | oneOf (words : List String)
deriving DecidableEq, Repr, Inhabited

inductive Argument where
  | text (s : String)
  | integer (n : Int)
  | nothing
deriving DecidableEq, Repr, Inhabited

namespace Argument

def toText : Argument → String
  | text s => s
  | integer n => Integer.text n
  | nothing => ""

def toValue : Argument → Json.Value
  | text s => .text s
  | integer n => .integer n
  | nothing => .array []

end Argument

def Kind.read? (kind : Kind) (word : List Char) : Option Argument :=
  let s := String.ofList word
  match kind with
  | .text => some (.text s)
  | .integer => (Integer.ofText? s).map .integer
  | .oneOf words => if words.contains s then some (.text s) else none

/-- An option with a value. It cannot stand beside its rivals. -/
structure Rule where
  name : String
  kind : Kind := .text
  rivals : List String := []
deriving DecidableEq, Repr, Inhabited

inductive Positions where
  | named (positions : List (String × Kind))
  /-- A command, with all that follows it. -/
  | command
deriving DecidableEq, Repr, Inhabited

structure Form where
  options : List Rule
  positions : Positions
deriving DecidableEq, Repr, Inhabited

inductive Stop where
  | help
  | misuse
deriving DecidableEq, Repr, Inhabited

/-! ## Roles -/

inductive Role where
  | plain
  | divider
  | option (name : List Char) (attached : Option (List Char))
  | unknown
deriving DecidableEq, Repr, Inhabited

def shortHelp : List Char := ['-', 'h']

def longHelp : List Char := "--help".toList

def dividerMark : List Char := ['-', '-']

def Form.names (f : Form) : List (List Char) :=
  shortHelp :: longHelp :: f.options.map (·.name.toList)

/-- The options that a word may be short for, with what it brings along. -/
def Form.candidates (f : Form) (word : List Char) : List (List Char × Option (List Char)) :=
  if dividerMark.isPrefixOf word then
    let (start, attached) := match Text.cutAt? '=' word with
      | some (start, value) => (start, some value)
      | none => (word, none)
    (f.names.filter start.isPrefixOf).map fun name => (name, attached)
  else
    f.names.filterMap fun name =>
      if name = word.take 2 then some (name, some (word.drop 2))
      else if word.isPrefixOf name then some (name, none)
      else none

/-- Digits after a dash, with at most one point among them and a digit at the end. A line end may
follow. -/
def isNegative (word : List Char) : Bool :=
  let number := word.drop 1
  let number := if number.getLast? = some '\n' then number.dropLast else number
  match Text.cutAt? '.' number with
  | none => !number.isEmpty && number.all Text.isDigit
  | some (whole, fraction) =>
    whole.all Text.isDigit && !fraction.isEmpty && fraction.all Text.isDigit

example : isNegative "-.5".toList = true := by decide

example : isNegative "-1.".toList = false := by decide

def Form.role (f : Form) (word : List Char) : Except Stop Role :=
  if word.head? ≠ some '-' then .ok .plain
  else if f.names.contains word then .ok (.option word none)
  else if word.length = 1 then .ok .plain
  else
    match (Text.cutAt? '=' word).filter fun (name, _) => f.names.contains name with
    | some (name, value) => .ok (.option name (some value))
    | none =>
      match f.candidates word with
      | [(name, attached)] => .ok (.option name attached)
      | [] => if isNegative word || word.contains ' ' then .ok .plain else .ok .unknown
      | _ => .error .misuse

abbrev Token := List Char × Role

def Form.tokens (f : Form) : List (List Char) → Except Stop (List Token)
  | [] => .ok []
  | word :: rest =>
    if word = dividerMark then .ok ((word, .divider) :: rest.map fun w => (w, .plain))
    else do
      let role ← f.role word
      return (word, role) :: (← f.tokens rest)

/-! ## Taking arguments -/

/-- What was taken: values by name, the last one first, and whether something was left over. -/
structure Taken where
  values : List (String × Argument)
  strays : Bool
  command : Option (List (List Char))
deriving Repr, Inhabited

namespace Taken

def empty : Taken := ⟨[], false, none⟩

def find? (t : Taken) (name : String) : Option Argument := t.values.lookup name

def text? (t : Taken) (name : String) : Option String :=
  match t.find? name with
  | some (.text s) => some s
  | _ => none

def integer? (t : Taken) (name : String) : Option Int :=
  match t.find? name with
  | some (.integer n) => some n
  | _ => none

def value (t : Taken) (name : String) : Json.Value := ((t.find? name).map Argument.toValue).getD .null

def add (t : Taken) (name : String) (kind : Kind) (word : List Char) : Except Stop Taken :=
  match kind.read? word with
  | some argument => .ok { t with values := (name, argument) :: t.values }
  | none => .error .misuse

def addNothing (t : Taken) (name : String) : Taken :=
  { t with values := (name, .nothing) :: t.values }

def addStray (t : Taken) : Taken := { t with strays := true }

/-- The value of an option. An option that asks for help takes none. -/
def addOption (t : Taken) (f : Form) (name word : List Char) : Except Stop Taken :=
  match f.options.find? (·.name.toList = name) with
  | none => .error .misuse
  | some rule =>
    if rule.rivals.any fun rival => (t.find? rival).isSome then .error .misuse
    else if word = dividerMark then .ok (t.addNothing rule.name)
    else t.add rule.name rule.kind word

end Taken

/-- What comes of an option that asks for help: short options may be strung together. -/
def helpOr (name : List Char) (attached : Option (List Char)) : Stop :=
  match attached with
  | none => .help
  | some more => if name = shortHelp ∧ more ≠ [] ∧ more.all (· == 'h') then .help else .misuse

/-- What the token before was. A divider behind a position belongs to it and does not count. -/
inductive Before where
  | position
  | divider
  | other
deriving DecidableEq, Repr, Inhabited

/-- Takes the tokens in order. `waiting` are the positions still to be filled. -/
def take (f : Form) (waiting : List (String × Kind)) (before : Before) (t : Taken) :
    List Token → Except Stop Taken
  | [] => if waiting.isEmpty then .ok t else .error .misuse
  | (word, .plain) :: rest =>
    match f.positions, waiting with
    | .command, _ => .ok { t with command := some (word :: rest.map (·.1)) }
    | .named _, (name, kind) :: waiting =>
      if word = dividerMark ∧ before ≠ .divider then
        take f waiting .position (t.addNothing name) rest
      else do take f waiting .position (← t.add name kind word) rest
    | .named _, [] => take f [] .other t.addStray rest
  | (_, .divider) :: rest =>
    if f.positions = .command then .error .misuse
    else if before = .position then take f waiting .other t rest
    else take f waiting .divider (if rest.isEmpty then t.addStray else t) rest
  | (_, .unknown) :: rest => take f waiting .other t.addStray rest
  | (_, .option name (some attached)) :: rest =>
    if name = shortHelp ∨ name = longHelp then .error (helpOr name (some attached))
    else do take f waiting .other (← t.addOption f name attached) rest
  | (_, .option name none) :: rest =>
    if name = shortHelp ∨ name = longHelp then .error (helpOr name none)
    else
      match rest with
      | (word, .plain) :: rest => do take f waiting .other (← t.addOption f name word) rest
      | _ => .error .misuse

def Form.scan (f : Form) (words : List (List Char)) : Except Stop Taken := do
  let waiting := match f.positions with
    | .named positions => positions
    | .command => []
  take f waiting .other .empty (← f.tokens words)

end MetricLedger.CommandLine
