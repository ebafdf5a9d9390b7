/-!
# Base 64

The writer is the standard one. The reader takes the standard alphabet, wants the padding and
allows it at the end only; the bits below a padding need not be zero, and padding right after a
full group is ignored, but a text never starts with it.
-/

namespace MetricLedger.Text.Base64

def pad : Char := '='

def symbol (n : Nat) : Char :=
  if n < 26 then Char.ofNat (n + 65)
  else if n < 52 then Char.ofNat (n + 71)
  else if n < 62 then Char.ofNat (n - 4)
  else if n = 62 then '+' else '/'

def sixBits? (c : Char) : Option Nat :=
  if 'A' ≤ c ∧ c ≤ 'Z' then some (c.toNat - 65)
  else if 'a' ≤ c ∧ c ≤ 'z' then some (c.toNat - 71)
  else if '0' ≤ c ∧ c ≤ '9' then some (c.toNat + 4)
  else if c = '+' then some 62
  else if c = '/' then some 63
  else none

def encode : List UInt8 → List Char
  | [] => []
  | [a] => [symbol (a.toNat / 4), symbol (a.toNat % 4 * 16), pad, pad]
  | [a, b] =>
    let n := a.toNat * 256 + b.toNat
    [symbol (n / 1024), symbol (n / 16 % 64), symbol (n % 16 * 4), pad]
  | a :: b :: c :: rest =>
    let n := (a.toNat * 256 + b.toNat) * 256 + c.toNat
    symbol (n / 262144) :: symbol (n / 4096 % 64) :: symbol (n / 64 % 64) :: symbol (n % 64) ::
      encode rest

/-- Reads groups of four symbols, of which the last one may be padded. -/
def decodeGroups : List Char → Option (List UInt8)
  | [] => some []
  | '=' :: pads => if pads.all (· == pad) then some [] else none
  | [a, b, '=', '='] => do
    let x ← sixBits? a
    let y ← sixBits? b
    return [UInt8.ofNat (x * 4 + y / 16)]
  | [a, b, c, '='] => do
    let x ← sixBits? a
    let y ← sixBits? b
    let z ← sixBits? c
    return [UInt8.ofNat (x * 4 + y / 16), UInt8.ofNat (y % 16 * 16 + z / 4)]
  | a :: b :: c :: d :: rest => do
    let x ← sixBits? a
    let y ← sixBits? b
    let z ← sixBits? c
    let w ← sixBits? d
    let bytes ← decodeGroups rest
    return UInt8.ofNat (x * 4 + y / 16) :: UInt8.ofNat (y % 16 * 16 + z / 4) ::
      UInt8.ofNat (z % 4 * 64 + w) :: bytes
  | _ => none

def decode? (text : List Char) : Option (List UInt8) :=
  if text.head? = some pad then none else decodeGroups text

example : encode [0x66, 0x6f] = "Zm8=".toList := by decide

example : decode? "Zh==".toList = some [0x66] := by decide

example : decode? "Zm9v=".toList = some [0x66, 0x6f, 0x6f] := by decide

end MetricLedger.Text.Base64
