import MetricLedger.Json.Value
import MetricLedger.Number.Integer
import MetricLedger.Text.Hex

/-!
# Reading JSON

The strict grammar: four kinds of blank, no comments, no trailing commas, no control characters and
no lone surrogates in strings. How deep arrays and objects may nest is a parameter, and the reader
recurses on it. Members of an object are kept as they stand, repeated names included.

Where the strict grammar is not all there is, this is assumed of the parser that the ledger uses:

* three words stand for the numbers that have no digits (`readScalar`);
* an integer has at most `Integer.digitLimit` digits, and its sign is not one of them (`readWhole`);
* arrays and objects with something in them nest at most `depthLimit` deep (`ofText?`).
-/

namespace MetricLedger.Json

open Text

/-- Takes something off the front of a text, and always takes some of the text. -/
structure Reader (α : Type) where
  run : List Char → Option (α × List Char)
  shorter : ∀ {s x rest}, run s = some (x, rest) → rest.length < s.length

def isSpace (c : Char) : Bool := c == ' ' || c == '\t' || c == '\n' || c == '\r'

def skip (s : List Char) : List Char := s.dropWhile isSpace

theorem length_skip_le (s : List Char) : (skip s).length ≤ s.length :=
  (List.dropWhile_sublist _).length_le

/-! ## Strings -/

def escapeCode? : Char → Option Nat
  | '"' => some 0x22
  | '\\' => some 0x5c
  | '/' => some 0x2f
  | 'b' => some 0x08
  | 'f' => some 0x0c
  | 'n' => some 0x0a
  | 'r' => some 0x0d
  | 't' => some 0x09
  | _ => none

def unit? (a b c d : Char) : Option Nat := do
  return ((← hexValue? a) * 16 + (← hexValue? b)) * 256 + ((← hexValue? c) * 16 + (← hexValue? d))

/-- The rest of a string after its opening quote: code points, and UTF-16 units for escapes. -/
def stringCodes : List Char → Option (List Nat × List Char)
  | [] => none
  | '"' :: rest => some ([], rest)
  | '\\' :: 'u' :: a :: b :: c :: d :: rest => do
    let code ← unit? a b c d
    let (codes, rest) ← stringCodes rest
    return (code :: codes, rest)
  | '\\' :: c :: rest => do
    let code ← escapeCode? c
    let (codes, rest) ← stringCodes rest
    return (code :: codes, rest)
  | c :: rest =>
    if c.toNat < 0x20 ∨ c = '\\' then none
    else do
      let (codes, rest) ← stringCodes rest
      return (c.toNat :: codes, rest)

/-- Joins each high surrogate with the low one after it, and refuses a surrogate on its own. -/
def joinSurrogates : List Nat → Option (List Char)
  | [] => some []
  | code :: rest =>
    if 0xd800 ≤ code ∧ code ≤ 0xdbff then
      match rest with
      | low :: rest =>
        if 0xdc00 ≤ low ∧ low ≤ 0xdfff then
          (joinSurrogates rest).map
            (Char.ofNat (0x10000 + (code - 0xd800) * 0x400 + (low - 0xdc00)) :: ·)
        else none
      | [] => none
    else if 0xdc00 ≤ code ∧ code ≤ 0xdfff then none
    else (joinSurrogates rest).map (Char.ofNat code :: ·)

def readString : List Char → Option (String × List Char)
  | '"' :: rest => do
    let (codes, rest) ← stringCodes rest
    let chars ← joinSurrogates codes
    return (String.ofList chars, rest)
  | _ => none

/-! ## Numbers -/

/-- Zero, or not too many digits that start with another one. -/
def readWhole : List Char → Option (List Char × List Char)
  | '0' :: rest => some (['0'], rest)
  | c :: rest =>
    if c.isDigit ∧ (rest.takeWhile Char.isDigit).length < Integer.digitLimit then
      some (c :: rest.takeWhile Char.isDigit, rest.dropWhile Char.isDigit)
    else none
  | [] => none

def readFraction : List Char → Option (List Char × List Char)
  | '.' :: rest =>
    if rest.takeWhile Char.isDigit = [] then none
    else some (rest.takeWhile Char.isDigit, rest.dropWhile Char.isDigit)
  | s => some ([], s)

def readPower (negative : Bool) (s : List Char) : Option (Option Int × List Char) :=
  let digits := s.takeWhile Char.isDigit
  if digits = [] then none
  else
    let n : Int := asciiValue digits
    some (some (if negative then -n else n), s.dropWhile Char.isDigit)

def readExponent : List Char → Option (Option Int × List Char)
  | c :: rest =>
    if c = 'e' ∨ c = 'E' then
      match rest with
      | '-' :: rest => readPower true rest
      | '+' :: rest => readPower false rest
      | rest => readPower false rest
    else some (none, c :: rest)
  | [] => some (none, [])

def number (negative : Bool) (whole fraction : List Char) (power : Option Int) : Value :=
  if fraction = [] ∧ power = none then
    .integer (if negative then -(asciiValue whole : Int) else asciiValue whole)
  else
    let digits := whole ++ fraction
    .real (Binary64.ofDecimal negative (asciiValue digits) digits.length
      (power.getD 0 - fraction.length))

def readUnsigned (negative : Bool) (s : List Char) : Option (Value × List Char) := do
  let (whole, s) ← readWhole s
  let (fraction, s) ← readFraction s
  let (power, s) ← readExponent s
  return (number negative whole fraction power, s)

def readNumber : List Char → Option (Value × List Char)
  | '-' :: rest => readUnsigned true rest
  | s => readUnsigned false s

/-! ## Scalars -/

def readScalar : List Char → Option (Value × List Char)
  | 'n' :: 'u' :: 'l' :: 'l' :: rest => some (.null, rest)
  | 't' :: 'r' :: 'u' :: 'e' :: rest => some (.bool true, rest)
  | 'f' :: 'a' :: 'l' :: 's' :: 'e' :: rest => some (.bool false, rest)
  | 'N' :: 'a' :: 'N' :: rest => some (.real .nan, rest)
  | 'I' :: 'n' :: 'f' :: 'i' :: 'n' :: 'i' :: 't' :: 'y' :: rest =>
    some (.real (.infinite false), rest)
  | '-' :: 'I' :: 'n' :: 'f' :: 'i' :: 'n' :: 'i' :: 't' :: 'y' :: rest =>
    some (.real (.infinite true), rest)
  | '"' :: rest => (readString ('"' :: rest)).map fun (s, rest) => (.text s, rest)
  | s => readNumber s

section Shorter

theorem stringCodes_shorter {s codes rest} (h : stringCodes s = some (codes, rest)) :
    rest.length < s.length := by
  fun_induction stringCodes s generalizing codes rest with
  | case1 => simp at h
  | case2 tail => simp_all
  | case3 a b c d tail ih =>
    simp only [bind, Option.bind_eq_some_iff, pure, Option.some.injEq, Prod.mk.injEq] at h
    obtain ⟨_, _, ⟨_, r⟩, hr, _, rfl⟩ := h
    have := ih hr
    simp only [List.length_cons]
    omega
  | case4 c tail _ ih =>
    simp only [bind, Option.bind_eq_some_iff, pure, Option.some.injEq, Prod.mk.injEq] at h
    obtain ⟨_, _, ⟨_, r⟩, hr, _, rfl⟩ := h
    have := ih hr
    simp only [List.length_cons]
    omega
  | case5 => simp at h
  | case6 c tail _ _ _ _ ih =>
    simp only [bind, Option.bind_eq_some_iff, pure, Option.some.injEq, Prod.mk.injEq] at h
    obtain ⟨⟨_, r⟩, hr, _, rfl⟩ := h
    have := ih hr
    simp only [List.length_cons]
    omega

theorem readString_shorter {s x rest} (h : readString s = some (x, rest)) :
    rest.length < s.length := by
  unfold readString at h
  split at h
  · simp only [bind, Option.bind_eq_some_iff, pure, Option.some.injEq, Prod.mk.injEq] at h
    obtain ⟨⟨_, r⟩, hr, _, _, _, rfl⟩ := h
    have := stringCodes_shorter hr
    simp only [List.length_cons]
    omega
  · simp at h

theorem length_dropWhile_le (p : Char → Bool) (s : List Char) :
    (s.dropWhile p).length ≤ s.length :=
  (List.dropWhile_sublist _).length_le

theorem readWhole_shorter {s digits rest} (h : readWhole s = some (digits, rest)) :
    rest.length < s.length := by
  unfold readWhole at h
  split at h
  · simp_all
  · split at h
    · simp only [Option.some.injEq, Prod.mk.injEq] at h
      rw [← h.2]
      exact Nat.lt_succ_of_le (length_dropWhile_le _ _)
    · simp at h
  · simp at h

theorem readFraction_le {s digits rest} (h : readFraction s = some (digits, rest)) :
    rest.length ≤ s.length := by
  unfold readFraction at h
  split at h
  · split at h
    · simp at h
    · simp only [Option.some.injEq, Prod.mk.injEq] at h
      rw [← h.2]
      exact Nat.le_succ_of_le (length_dropWhile_le _ _)
  · simp_all

theorem readPower_le {negative s power rest} (h : readPower negative s = some (power, rest)) :
    rest.length ≤ s.length := by
  unfold readPower at h
  simp only at h
  split at h
  · simp at h
  · simp only [Option.some.injEq, Prod.mk.injEq] at h
    rw [← h.2]
    exact length_dropWhile_le _ _

theorem readExponent_le {s power rest} (h : readExponent s = some (power, rest)) :
    rest.length ≤ s.length := by
  unfold readExponent at h
  split at h
  · split at h
    · split at h
      all_goals
        have := readPower_le h
        simp_all only [List.length_cons]
        omega
    · simp_all
  · simp_all

theorem readUnsigned_shorter {negative s x rest} (h : readUnsigned negative s = some (x, rest)) :
    rest.length < s.length := by
  simp only [readUnsigned, bind, Option.bind_eq_some_iff, pure, Option.some.injEq,
    Prod.mk.injEq] at h
  obtain ⟨⟨_, s₁⟩, h₁, ⟨_, s₂⟩, h₂, ⟨_, s₃⟩, h₃, _, rfl⟩ := h
  have := readWhole_shorter h₁
  have := readFraction_le h₂
  have := readExponent_le h₃
  simp only at *
  omega

theorem readNumber_shorter {s x rest} (h : readNumber s = some (x, rest)) :
    rest.length < s.length := by
  unfold readNumber at h
  split at h
  · have := readUnsigned_shorter h
    simp only [List.length_cons]
    omega
  · exact readUnsigned_shorter h

theorem readScalar_shorter {s x rest} (h : readScalar s = some (x, rest)) :
    rest.length < s.length := by
  unfold readScalar at h
  split at h
  case h_7 =>
    simp only [Option.map_eq_some_iff, Prod.mk.injEq] at h
    obtain ⟨⟨_, r⟩, hr, _, rfl⟩ := h
    exact readString_shorter hr
  case h_8 => exact readNumber_shorter h
  all_goals
    simp only [Option.some.injEq, Prod.mk.injEq] at h
    rw [← h.2]
    simp only [List.length_cons]
    omega

end Shorter

/-! ## Arrays and objects -/

def readClose (close : Char) (s : List Char) : Option (List Char) :=
  match skip s with
  | c :: rest => if c = close then some rest else none
  | [] => none

theorem readClose_shorter {close : Char} {s rest} (h : readClose close s = some rest) :
    rest.length < s.length := by
  unfold readClose at h
  have := length_skip_le s
  split at h
  · rename_i c more hm
    simp only [hm, List.length_cons] at this
    split at h
    · simp only [Option.some.injEq] at h
      rw [← h]
      omega
    · simp at h
  · simp at h

/-- A scalar, or an array or object with nothing in it. -/
def readLeaf : List Char → Option (Value × List Char)
  | '[' :: rest => (readClose ']' rest).map fun rest => (.array [], rest)
  | '\x7b' :: rest => (readClose '\x7d' rest).map fun rest => (.object [], rest)
  | s => readScalar s

theorem readLeaf_shorter {s x rest} (h : readLeaf s = some (x, rest)) :
    rest.length < s.length := by
  unfold readLeaf at h
  split at h
  case h_3 => exact readScalar_shorter h
  all_goals
    simp only [Option.map_eq_some_iff, Prod.mk.injEq] at h
    obtain ⟨r, hr, _, rfl⟩ := h
    exact Nat.lt_succ_of_lt (readClose_shorter hr)

def leaf : Reader Value := ⟨readLeaf, readLeaf_shorter⟩

section
variable {α : Type}

theorem length_after_comma {item : Reader α} {s x rest c more}
    (h : item.run (skip s) = some (x, rest)) (hc : skip rest = c :: more) :
    more.length < s.length := by
  have := item.shorter h
  have := length_skip_le s
  have := length_skip_le rest
  simp only [hc, List.length_cons] at *
  omega

/-- One or more items with commas between them, up to the closing bracket. -/
def readItems (close : Char) (item : Reader α) (s : List Char) : Option (List α × List Char) :=
  match h : item.run (skip s) with
  | none => none
  | some (x, rest) =>
    match hc : skip rest with
    | [] => none
    | c :: more =>
      if c = ',' then
        have := length_after_comma h hc
        (readItems close item more).map fun (xs, rest) => (x :: xs, rest)
      else if c = close then some ([x], more)
      else none
termination_by s.length

/-- The items up to the closing bracket, perhaps none. -/
def readBody (close : Char) (item : Reader α) (s : List Char) : Option (List α × List Char) :=
  match skip s with
  | [] => none
  | c :: rest => if c = close then some ([], rest) else readItems close item s

theorem readItems_shorter {close : Char} {item : Reader α} {s xs rest}
    (h : readItems close item s = some (xs, rest)) : rest.length < s.length := by
  fun_induction readItems close item s generalizing xs rest with
  | case1 => simp at h
  | case2 => simp at h
  | case3 s x r hr more hc _ ih =>
    simp only [Option.map_eq_some_iff, Prod.mk.injEq] at h
    obtain ⟨⟨_, r'⟩, hr', _, rfl⟩ := h
    have := ih hr'
    have := length_after_comma hr hc
    simp only at *
    omega
  | case4 s x r hr more hc =>
    simp only [Option.some.injEq, Prod.mk.injEq] at h
    rw [← h.2]
    exact length_after_comma hr hc
  | case5 => simp at h

theorem readBody_shorter {close : Char} {item : Reader α} {s xs rest}
    (h : readBody close item s = some (xs, rest)) : rest.length < s.length := by
  unfold readBody at h
  split at h
  · simp at h
  · rename_i c more hm
    have := length_skip_le s
    split at h
    · simp only [Option.some.injEq, Prod.mk.injEq] at h
      simp only [hm, List.length_cons] at this
      rw [← h.2]
      omega
    · exact readItems_shorter h

end

def readMember (item : Reader Value) (s : List Char) : Option ((String × Value) × List Char) := do
  let (name, s) ← readString s
  match skip s with
  | ':' :: rest => (item.run (skip rest)).map fun (value, rest) => ((name, value), rest)
  | _ => none

theorem readMember_shorter {item : Reader Value} {s m rest}
    (h : readMember item s = some (m, rest)) : rest.length < s.length := by
  simp only [readMember, bind, Option.bind_eq_some_iff] at h
  obtain ⟨⟨name, s'⟩, hs, h⟩ := h
  simp only at h
  split at h
  · rename_i more hm
    simp only [Option.map_eq_some_iff, Prod.mk.injEq] at h
    obtain ⟨⟨_, r⟩, hr, _, rfl⟩ := h
    have := readString_shorter hs
    have := item.shorter hr
    have := length_skip_le s'
    have := length_skip_le more
    simp only [hm, List.length_cons] at *
    omega
  · simp at h

def member (item : Reader Value) : Reader (String × Value) :=
  ⟨readMember item, readMember_shorter⟩

/-- A scalar, or an array or object whose parts are read by the other two. -/
def readValue (item : Reader Value) : List Char → Option (Value × List Char)
  | '[' :: rest => (readBody ']' item rest).map fun (items, rest) => (.array items, rest)
  | '\x7b' :: rest =>
    (readBody '\x7d' (member item) rest).map fun (members, rest) => (.object members, rest)
  | s => readScalar s

theorem readValue_shorter {item : Reader Value} {s x rest}
    (h : readValue item s = some (x, rest)) : rest.length < s.length := by
  unfold readValue at h
  split at h
  · simp only [Option.map_eq_some_iff, Prod.mk.injEq] at h
    obtain ⟨⟨_, r⟩, hr, _, rfl⟩ := h
    exact Nat.lt_succ_of_lt (readBody_shorter hr)
  · simp only [Option.map_eq_some_iff, Prod.mk.injEq] at h
    obtain ⟨⟨_, r⟩, hr, _, rfl⟩ := h
    exact Nat.lt_succ_of_lt (readBody_shorter hr)
  · exact readScalar_shorter h

/-- A value in which at most so many arrays and objects stand one inside the other, not counting
those with nothing in them. -/
def value : Nat → Reader Value
  | 0 => leaf
  | depth + 1 => ⟨readValue (value depth), readValue_shorter⟩

/-- A text that holds one value and nothing else but blanks. -/
def ofChars? (depth : Nat) (s : List Char) : Option Value :=
  match (value depth).run (skip s) with
  | some (v, rest) => if skip rest = [] then some v else none
  | none => none

/-- How deep the texts that the ledger reads may nest. -/
def depthLimit : Nat := 200

def ofText? (text : String) : Option Value := ofChars? depthLimit text.toList

end MetricLedger.Json
