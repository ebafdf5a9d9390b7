import MetricLedger.Text.Utf8

/-!
# Texts that need not be Unicode

A text may hold halves of surrogate pairs by themselves, as it does for bytes of an argument that
are no UTF-8. A half has no encoding, so a text with one has none either.
-/

namespace MetricLedger.Text

/-- The halves are counted from the first one, U+D800. -/
inductive Point where
  | char (c : Char)
  | half (number : Fin 0x800)
deriving DecidableEq, Repr, Inhabited

abbrev Loose := List Point

namespace Loose

def ofString (text : String) : Loose := text.toList.map .char

/-- The characters, if these are all there is. -/
def chars? : Loose → Option (List Char)
  | [] => some []
  | .char c :: rest => (chars? rest).map (c :: ·)
  | .half _ :: _ => none

def string? (text : Loose) : Option String := text.chars?.map String.ofList

theorem chars?_map_char (cs : List Char) : chars? (cs.map .char) = some cs := by
  induction cs with
  | nil => rfl
  | cons c cs ih => rw [List.map_cons, chars?, ih, Option.map_some]

theorem chars?_eq_none_iff {text : Loose} : text.chars? = none ↔ ∃ number, .half number ∈ text := by
  induction text with
  | nil => exact ⟨nofun, nofun⟩
  | cons p rest ih =>
    cases p with
    | char c => simp [chars?, ih]
    | half number => exact ⟨fun _ => ⟨number, List.mem_cons_self⟩, fun _ => rfl⟩

@[simp] theorem string?_ofString (text : String) : (ofString text).string? = some text := by
  rw [string?, ofString, chars?_map_char, Option.map_some, String.ofList_toList]

theorem string?_eq_none_iff {text : Loose} :
    text.string? = none ↔ ∃ number, .half number ∈ text := by
  rw [string?, Option.map_eq_none_iff, chars?_eq_none_iff]

@[simp] theorem ofString_append (s t : String) : ofString (s ++ t) = ofString s ++ ofString t := by
  rw [ofString, String.toList_append, List.map_append, ofString, ofString]

theorem half_not_mem_ofString {number : Fin 0x800} {text : String} :
    .half number ∉ ofString text := by
  simp [ofString]

end Loose

end MetricLedger.Text
