import MetricLedger.Number.Binary64

/-!
# JSON values

Integers have any size and differ from numbers with a fraction or an exponent. The members of an
object stand in order. A coarser sameness goes by the values of numbers and takes the members of an
object in any order; integers and texts are the same only as themselves.
-/

namespace MetricLedger.Json

inductive Value where
  | null
  | bool (b : Bool)
  | integer (n : Int)
  | real (x : Binary64)
  | text (s : String)
  | array (items : List Value)
  | object (members : List (String × Value))
deriving Repr, Inhabited

/-- Sets the member of that name, in its place or at the end. -/
def put (members : List (String × Value)) (name : String) (value : Value) : List (String × Value) :=
  match members with
  | [] => [(name, value)]
  | (other, old) :: rest =>
    if other = name then (name, value) :: rest else (other, old) :: put rest name value

namespace Value

/-! ## Equality -/

mutual

def isEqual : Value → Value → Bool
  | .null, .null => true
  | .bool b, .bool c => b = c
  | .integer n, .integer m => n = m
  | .real x, .real y => x = y
  | .text s, .text t => s = t
  | .array items, .array others => itemsEqual items others
  | .object members, .object others => membersEqual members others
  | _, _ => false

def itemsEqual : List Value → List Value → Bool
  | [], [] => true
  | v :: rest, w :: others => v.isEqual w && itemsEqual rest others
  | _, _ => false

def membersEqual : List (String × Value) → List (String × Value) → Bool
  | [], [] => true
  | (name, v) :: rest, (other, w) :: others =>
    name = other && v.isEqual w && membersEqual rest others
  | _, _ => false

end

mutual

theorem isEqual_iff : (v w : Value) → (v.isEqual w = true ↔ v = w)
  | .array items, w => by cases w <;> simp [isEqual, itemsEqual_iff items]
  | .object members, w => by cases w <;> simp [isEqual, membersEqual_iff members]
  | .null, w | .bool _, w | .integer _, w | .real _, w | .text _, w => by
    cases w <;> simp [isEqual]

theorem itemsEqual_iff :
    (items others : List Value) → (itemsEqual items others = true ↔ items = others)
  | [], others => by cases others <;> simp [itemsEqual]
  | v :: rest, others => by
    cases others <;> simp [itemsEqual, isEqual_iff v, itemsEqual_iff rest]

theorem membersEqual_iff :
    (members others : List (String × Value)) →
      (membersEqual members others = true ↔ members = others)
  | [], others => by cases others <;> simp [membersEqual]
  | (name, v) :: rest, others => by
    cases others <;>
      simp [membersEqual, isEqual_iff v, membersEqual_iff rest, Prod.ext_iff, and_assoc]

end

instance : DecidableEq Value := fun v w => decidable_of_iff _ (isEqual_iff v w)

/-! ## Parts -/

def isText : Value → Bool
  | .text _ => true
  | _ => false

def isNull : Value → Bool
  | .null => true
  | _ => false

def ofOption : Option String → Value
  | some s => .text s
  | none => .null

def member? : Value → String → Option Value
  | .object members, name => members.lookup name
  | _, _ => none

/-- Joins members of one name: the first one gives the place, the last one the value. -/
def merge (members : List (String × Value)) : List (String × Value) :=
  members.foldl (fun merged (name, value) => put merged name value) []

mutual

/-- The value with the members of one name joined, at every depth. -/
def merged : Value → Value
  | .array items => .array (mergedItems items)
  | .object members => .object (merge (mergedMembers members))
  | v => v

def mergedItems : List Value → List Value
  | [] => []
  | item :: rest => item.merged :: mergedItems rest

def mergedMembers : List (String × Value) → List (String × Value)
  | [] => []
  | (name, value) :: rest => (name, value.merged) :: mergedMembers rest

end

/-! ## Sameness -/

/-- The value of a finite number; the two truth values count as one and zero. -/
def units? : Value → Option Int
  | .bool b => some (Binary64.unitsOfInt (if b then 1 else 0))
  | .integer n => some (Binary64.unitsOfInt n)
  | .real x => x.units?
  | _ => none

def sameNumber (v w : Value) : Bool := v.units?.isSome && v.units? == w.units?

mutual

/-- Whether two values are the same when numbers of any kind are compared by their value and the
members of an object by their names. -/
def same : Value → Value → Bool
  | .array items, .array others => sameItems items others
  | .object members, .object others =>
    members.length == others.length && sameMembers members others
  | v, w => v == w || sameNumber v w

def sameItems : List Value → List Value → Bool
  | [], [] => true
  | v :: rest, w :: others => v.same w && sameItems rest others
  | _, _ => false

def sameMembers : List (String × Value) → List (String × Value) → Bool
  | [], _ => true
  | (name, v) :: rest, others =>
    (match others.lookup name with
      | some w => v.same w
      | none => false) && sameMembers rest others

end

example : same (.array [.integer 1, .bool false]) (.array [.bool true, .integer 0]) = true := by
  simp [same, sameItems, sameNumber, units?]

theorem same_integer (n m : Int) : same (.integer n) (.integer m) = decide (n = m) := by
  have hu : (Binary64.unitsOfInt n == Binary64.unitsOfInt m) = decide (n = m) :=
    decide_eq_decide.2 (Int.mul_eq_mul_right_iff (by decide +kernel))
  simp [same, sameNumber, units?, hu]

theorem same_text (s t : String) : same (.text s) (.text t) = decide (s = t) := by
  rw [Bool.eq_iff_iff]
  simp [same, sameNumber, units?]

end Value

end MetricLedger.Json
