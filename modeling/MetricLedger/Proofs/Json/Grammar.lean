import MetricLedger.Json.Reader
import MetricLedger.Json.Writer
import MetricLedger.Proofs.Decimal.FixedPoint

/-!
# The grammar of JSON

What stands in front of a text, and what remains of the text behind it. The grammar leaves open
what a number is: the strict one knows digits only, however many, and the ledger also reads three
words but bounds the digits before the point.
-/

namespace MetricLedger.Json

open Text

/-- A way to spell something in front of a text: what is spelled, the text, and what remains. -/
abbrev Spelling (α : Type) := α → List Char → List Char → Prop

inductive Blanks : List Char → List Char → Prop
  | none {s : List Char} : Blanks s s
  | cons {c : Char} {s rest : List Char} : isSpace c = true → Blanks s rest → Blanks (c :: s) rest

/-! ## Strings -/

def shortEscapes : List (Char × Char) :=
  [('"', '"'), ('\\', '\\'), ('/', '/'), ('b', '\x08'), ('f', '\x0c'), ('n', '\n'), ('r', '\r'),
    ('t', '\t')]

inductive Units : Spelling (List Nat)
  | nil {s : List Char} : Units [] s s
  | cons {a b c d : Char} {n : Nat} {units : List Nat} {s rest : List Char} :
    unit? a b c d = some n → Units units s rest →
      Units (n :: units) ('\\' :: 'u' :: a :: b :: c :: d :: s) rest

inductive Letter : Spelling Char
  | plain {c : Char} {rest : List Char} :
    0x20 ≤ c.toNat → c ≠ '"' → c ≠ '\\' → Letter c (c :: rest) rest
  | short {e c : Char} {rest : List Char} :
    (e, c) ∈ shortEscapes → Letter c ('\\' :: e :: rest) rest
  | units {c : Char} {s rest : List Char} : Units (units16 c) s rest → Letter c s rest

inductive Letters : Spelling (List Char)
  | nil {rest : List Char} : Letters [] ('"' :: rest) rest
  | cons {c : Char} {chars s s' rest : List Char} :
    Letter c s s' → Letters chars s' rest → Letters (c :: chars) s rest

inductive Quoted : Spelling String
  | mk {chars s rest : List Char} :
    Letters chars s rest → Quoted (String.ofList chars) ('"' :: s) rest

/-! ## Numbers -/

structure IsWhole (digits : List Char) : Prop where
  all : Digits digits
  nonempty : digits ≠ []
  zero : digits.head? = some '0' → digits = ['0']

inductive Fraction : Spelling (List Char)
  | none {s : List Char} : Fraction [] s s
  | digits {digits rest : List Char} :
    digits ≠ [] → Digits digits → Fraction digits ('.' :: digits ++ rest) rest

inductive Power : Spelling Int
  | plain {digits rest : List Char} :
    digits ≠ [] → Digits digits → Power (asciiValue digits) (digits ++ rest) rest
  | plus {digits rest : List Char} :
    digits ≠ [] → Digits digits → Power (asciiValue digits) ('+' :: digits ++ rest) rest
  | minus {digits rest : List Char} :
    digits ≠ [] → Digits digits → Power (-asciiValue digits) ('-' :: digits ++ rest) rest

inductive Exponent : Spelling (Option Int)
  | none {s : List Char} : Exponent none s s
  | power {mark : Char} {n : Int} {s rest : List Char} :
    mark = 'e' ∨ mark = 'E' → Power n s rest → Exponent (some n) (mark :: s) rest

/-- A number written in digits, with at most so many before the point, if that is bounded. -/
inductive Numeral (limit : Option Nat) : Spelling Value
  | mk {negative : Bool} {whole fraction s s' rest : List Char} {power : Option Int} :
    IsWhole whole → (∀ n ∈ limit, whole.length ≤ n) →
      Fraction fraction s s' → Exponent power s' rest →
      Numeral limit (number negative whole fraction power)
        (Decimal.withSign negative (whole ++ s)) rest

abbrev StrictNumber : Spelling Value := Numeral none

/-- Numbers as the ledger reads them. -/
inductive LedgerNumber : Spelling Value
  | numeral {v : Value} {s rest : List Char} :
    Numeral (some Integer.digitLimit) v s rest → LedgerNumber v s rest
  | nan {rest : List Char} : LedgerNumber (.real .nan) ('N' :: 'a' :: 'N' :: rest) rest
  | infinity {rest : List Char} :
    LedgerNumber (.real (.infinite false))
      ('I' :: 'n' :: 'f' :: 'i' :: 'n' :: 'i' :: 't' :: 'y' :: rest) rest
  | minusInfinity {rest : List Char} :
    LedgerNumber (.real (.infinite true))
      ('-' :: 'I' :: 'n' :: 'f' :: 'i' :: 'n' :: 'i' :: 't' :: 'y' :: rest) rest

/-! ## Values -/

inductive Items {α : Type} (close : Char) (P : Spelling α) : Spelling (List α)
  | last {x : α} {s s₁ s₂ rest : List Char} :
    Blanks s s₁ → P x s₁ s₂ → Blanks s₂ (close :: rest) → Items close P [x] s rest
  | cons {x : α} {xs : List α} {s s₁ s₂ s₃ rest : List Char} :
    Blanks s s₁ → P x s₁ s₂ → Blanks s₂ (',' :: s₃) → Items close P xs s₃ rest →
      Items close P (x :: xs) s rest

inductive Member (P : Spelling Value) : Spelling (String × Value)
  | mk {name : String} {v : Value} {s s₁ s₂ s₃ rest : List Char} :
    Quoted name s s₁ → Blanks s₁ (':' :: s₂) → Blanks s₂ s₃ → P v s₃ rest →
      Member P (name, v) s rest

inductive Scalar (N : Spelling Value) : Spelling Value
  | null {rest : List Char} : Scalar N .null ('n' :: 'u' :: 'l' :: 'l' :: rest) rest
  | truth {rest : List Char} : Scalar N (.bool true) ('t' :: 'r' :: 'u' :: 'e' :: rest) rest
  | falsity {rest : List Char} :
    Scalar N (.bool false) ('f' :: 'a' :: 'l' :: 's' :: 'e' :: rest) rest
  | number {v : Value} {s rest : List Char} : N v s rest → Scalar N v s rest
  | text {t : String} {s rest : List Char} : Quoted t s rest → Scalar N (.text t) s rest

inductive Spells (N : Spelling Value) : Spelling Value
  | scalar {v : Value} {s rest : List Char} : Scalar N v s rest → Spells N v s rest
  | emptyArray {s rest : List Char} : Blanks s (']' :: rest) → Spells N (.array []) ('[' :: s) rest
  | emptyObject {s rest : List Char} :
    Blanks s ('\x7d' :: rest) → Spells N (.object []) ('\x7b' :: s) rest
  | array {items : List Value} {s rest : List Char} :
    Items ']' (Spells N) items s rest → Spells N (.array items) ('[' :: s) rest
  | object {members : List (String × Value)} {s rest : List Char} :
    Items '\x7d' (Member (Spells N)) members s rest → Spells N (.object members) ('\x7b' :: s) rest

inductive IsText (N : Spelling Value) (v : Value) (s : List Char) : Prop
  | mk {s₁ s₂ : List Char} : Blanks s s₁ → Spells N v s₁ s₂ → Blanks s₂ [] → IsText N v s

/-! ## Depth -/

namespace Value

mutual

/-- How many arrays and objects stand one inside the other, not counting those with nothing in
them. -/
def depth : Value → Nat
  | .array (item :: items) => max item.depth (itemsDepth items) + 1
  | .object ((_, v) :: members) => max v.depth (membersDepth members) + 1
  | _ => 0

def itemsDepth : List Value → Nat
  | [] => 0
  | item :: items => max item.depth (itemsDepth items)

def membersDepth : List (String × Value) → Nat
  | [] => 0
  | (_, v) :: members => max v.depth (membersDepth members)

end

theorem itemsDepth_le_iff {items : List Value} {n : Nat} :
    itemsDepth items ≤ n ↔ ∀ v ∈ items, v.depth ≤ n := by
  induction items with
  | nil => simp [itemsDepth]
  | cons item items ih => rw [itemsDepth, Nat.max_le, ih, List.forall_mem_cons]

theorem membersDepth_le_iff {members : List (String × Value)} {n : Nat} :
    membersDepth members ≤ n ↔ ∀ m ∈ members, m.2.depth ≤ n := by
  induction members with
  | nil => simp [membersDepth]
  | cons member members ih => rw [membersDepth, Nat.max_le, ih, List.forall_mem_cons]

theorem depth_array {items : List Value} (h : items ≠ []) :
    (array items).depth = itemsDepth items + 1 := by
  cases items with
  | nil => exact absurd rfl h
  | cons item items => rw [depth, itemsDepth]

theorem depth_object {members : List (String × Value)} (h : members ≠ []) :
    (object members).depth = membersDepth members + 1 := by
  cases members with
  | nil => exact absurd rfl h
  | cons member members => rw [depth, membersDepth]

end Value

end MetricLedger.Json
