import MetricLedger.Number.Integer
import MetricLedger.Text.Split

/-!
# Versions

Three numbers with points between them, ordered by the first one that differs.
-/

namespace MetricLedger

structure Version where
  major : Nat
  minor : Nat
  patch : Nat
deriving DecidableEq, Repr, Inhabited

namespace Version

def number? (text : List Char) : Option Nat := do
  let digits ← text.mapM Text.digitValue?
  if digits = [] ∨ Integer.digitLimit < digits.length then none
  else return Text.digitsValue digits

def ofText? (text : String) : Option Version :=
  match Text.splitAt '.' text.toList with
  | [major, minor, patch] => do return ⟨← number? major, ← number? minor, ← number? patch⟩
  | _ => none

def lt (v w : Version) : Prop :=
  v.major < w.major ∨
    v.major = w.major ∧ (v.minor < w.minor ∨ v.minor = w.minor ∧ v.patch < w.patch)

instance : LT Version := ⟨lt⟩

instance (v w : Version) : Decidable (v < w) :=
  inferInstanceAs (Decidable (_ ∨ _ ∧ (_ ∨ _ ∧ _)))

end Version

end MetricLedger
