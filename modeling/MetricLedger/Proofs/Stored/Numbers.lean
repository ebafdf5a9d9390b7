import MetricLedger.Json.Field
import MetricLedger.Proofs.Stored.Same

/-!
# Numbers of one amount

A stored number that counts as the same as an integer is read as this integer, of whatever kind it
is. This takes a floating point number that 64 bits can hold.
-/

namespace MetricLedger

open Json (Value)

/-- The quotient of a number by a power of two, from a power in which it is an integer. -/
theorem quotient_of_units {m n e : Int} {k : Nat} (hk : -(k : Int) ≤ e)
    (h : m * 2 ^ (e + k).toNat = n * 2 ^ k) : m * 2 ^ e.toNat / 2 ^ (-e).toNat = n := by
  have hpos : ∀ j : Nat, (2 : Int) ^ j ≠ 0 := fun j => Int.pow_ne_zero (by decide)
  by_cases he : 0 ≤ e
  · rw [show (e + k).toNat = e.toNat + k by omega, Int.pow_add, ← Int.mul_assoc] at h
    rw [show (-e).toNat = 0 by omega, Int.pow_zero, Int.ediv_one]
    exact Int.eq_of_mul_eq_mul_right (hpos k) h
  · have hsplit : n * (2 : Int) ^ k = n * 2 ^ (-e).toNat * 2 ^ (e + k).toNat := by
      rw [Int.mul_assoc, ← Int.pow_add]
      congr 2
      omega
    rw [hsplit] at h
    rw [Int.eq_of_mul_eq_mul_right (hpos _) h, show e.toNat = 0 by omega, Int.pow_zero,
      Int.mul_one, Int.mul_ediv_cancel _ (hpos _)]

namespace Binary64

def isMachine : Binary64 → Bool
  | .finite _ mantissa exponent =>
    mantissa < 2 * leastMantissa && leastExponent ≤ exponent && exponent ≤ greatestExponent
  | .infinite _ | .nan => true

theorem toInt?_of_units? {x : Binary64} {n : Int} (hx : x.isMachine = true)
    (h : x.units? = some (unitsOfInt n)) : x.toInt? = some n := by
  cases x with
  | finite negative m e =>
    simp only [isMachine, Bool.and_eq_true, decide_eq_true_eq] at hx
    have hk : -(((-leastExponent).toNat : Nat) : Int) ≤ e := hx.1.2
    have hexp : (e - leastExponent).toNat = (e + ((-leastExponent).toNat : Nat)).toNat := rfl
    simp only [units?, unitsOfInt, Option.some.injEq, hexp] at h
    simp only [toInt?, Option.some.injEq]
    generalize (-leastExponent).toNat = k at hk h
    cases negative with
    | false => exact quotient_of_units hk h
    | true =>
      have hneg : (m : Int) * 2 ^ (e + k).toNat = -n * 2 ^ k := by
        rw [Int.neg_mul, ← h]
        exact (Int.neg_neg _).symm
      rw [quotient_of_units hk hneg]
      exact Int.neg_neg n
  | infinite negative => cases h
  | nan => cases h

end Binary64

namespace Json.Value

inductive IsPart (part : Value) : Value → Prop where
  | self : IsPart part part
  | item {items : List Value} {item : Value} (hmem : item ∈ items) (h : IsPart part item) :
    IsPart part (.array items)
  | member {members : List (String × Value)} {name : String} {value : Value}
    (hmem : (name, value) ∈ members) (h : IsPart part value) : IsPart part (.object members)

def IsMachine (v : Value) : Prop := ∀ x, IsPart (.real x) v → x.isMachine = true

@[simp] theorem isMachine_integer (n : Int) : (integer n).IsMachine := nofun

@[simp] theorem isMachine_text (s : String) : (text s).IsMachine := nofun

@[simp] theorem isMachine_real {x : Binary64} : (real x).IsMachine ↔ x.isMachine = true := by
  refine ⟨fun h => h x .self, fun h y hy => ?_⟩
  cases hy
  exact h

@[simp] theorem isMachine_array {items : List Value} :
    (array items).IsMachine ↔ ∀ v ∈ items, v.IsMachine := by
  refine ⟨fun h v hv x hx => h x (.item hv hx), fun h x hx => ?_⟩
  cases hx with
  | item hv hx => exact h _ hv x hx

@[simp] theorem isMachine_object {members : List (String × Value)} :
    (object members).IsMachine ↔ ∀ member ∈ members, member.2.IsMachine := by
  refine ⟨fun h member hv x hx => h x (.member hv hx), fun h x hx => ?_⟩
  cases hx with
  | member hv hx => exact h _ hv x hx

theorem IsMachine.of_lookup {members : List (String × Value)} {name : String} {v : Value}
    (h : IsMachine (.object members)) (hlookup : members.lookup name = some v) : v.IsMachine :=
  isMachine_object.1 h _ (mem_of_lookup hlookup)

theorem toInteger_of_same {n : Int} {w : Value} (hw : w.IsMachine)
    (h : (integer n).same w = true) : w.toInteger = .ok n := by
  have hinj : ∀ m : Int, Binary64.unitsOfInt n = Binary64.unitsOfInt m → n = m := fun m =>
    (Int.mul_eq_mul_right_iff (by decide +kernel)).1
  cases w with
  | integer m =>
    rw [same_integer] at h
    rw [of_decide_eq_true h]
    rfl
  | bool b =>
    have hunits : Binary64.unitsOfInt n = Binary64.unitsOfInt (if b then 1 else 0) := by
      simpa [same, sameNumber, units?] using h
    rw [hinj _ hunits]
    rfl
  | real x =>
    have hunits : some (Binary64.unitsOfInt n) = x.units? := by
      simpa [same, sameNumber, units?] using h
    have hx := Binary64.toInt?_of_units? (hw x .self) hunits.symm
    cases x with
    | nan => cases hx
    | finite negative m e => simp only [toInteger, hx]
    | infinite negative => cases hx
  | null => simp [same, sameNumber, units?] at h
  | text s => simp [same, sameNumber, units?] at h
  | array items => simp [same, sameNumber, units?] at h
  | object members => simp [same, sameNumber, units?] at h

end Json.Value

end MetricLedger
