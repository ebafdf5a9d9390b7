import MetricLedger.Text.Utf8

/-!
# UTF-8 that may be broken

Bytes that are no character are read as the replacement character, one for each longest start of a
character. So every list of bytes has a text.
-/

namespace MetricLedger.Text.Utf8

/-- What stands for bytes that cannot be read. -/
def replacement : Char := Char.ofNat 0xfffd

/-- A character of which some bytes were read: how many are missing, the bits so far, and the bounds
of the next byte. -/
structure Begun where
  missing : Nat
  bits : Nat
  low : Nat := 0x80
  high : Nat := 0xbf

/-- The character of several bytes that a first byte begins. The bounds leave out overlong forms,
surrogates, and what lies beyond the last character. -/
def begin? (b : Nat) : Option Begun :=
  if 0xc2 ≤ b ∧ b ≤ 0xdf then some { missing := 1, bits := b % 0x20 }
  else if 0xe0 ≤ b ∧ b ≤ 0xef then
    some ⟨2, b % 0x10, if b = 0xe0 then 0xa0 else 0x80, if b = 0xed then 0x9f else 0xbf⟩
  else if 0xf0 ≤ b ∧ b ≤ 0xf4 then
    some ⟨3, b % 0x08, if b = 0xf0 then 0x90 else 0x80, if b = 0xf4 then 0x8f else 0xbf⟩
  else none

/-- What a byte yields where a character may begin, and the character that it begins. -/
def first (b : Nat) : List Char × Option Begun :=
  if b < 0x80 then ([Char.ofNat b], none)
  else
    match begin? b with
    | some begun => ([], some begun)
    | none => ([replacement], none)

def next (begun : Begun) (b : Nat) : List Char × Option Begun :=
  if begun.low ≤ b ∧ b ≤ begun.high then
    let bits := begun.bits * 0x40 + b % 0x40
    if begun.missing ≤ 1 then ([Char.ofNat bits], none)
    else ([], some { missing := begun.missing - 1, bits := bits })
  else
    let (out, state) := first b
    (replacement :: out, state)

def decodeFrom : Option Begun → List UInt8 → List Char
  | none, [] => []
  | some _, [] => [replacement]
  | none, b :: rest =>
    let (out, state) := first b.toNat
    out ++ decodeFrom state rest
  | some begun, b :: rest =>
    let (out, state) := next begun b.toNat
    out ++ decodeFrom state rest

def decodeLeniently (bytes : List UInt8) : List Char := decodeFrom none bytes

example : decodeLeniently [0xc3, 0xa9, 0xe4, 0xb8, 0x41] = ['é', replacement, 'A'] := by decide

end MetricLedger.Text.Utf8
