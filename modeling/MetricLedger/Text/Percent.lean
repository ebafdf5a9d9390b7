import MetricLedger.Text.Hex
import MetricLedger.Text.Utf8.Lenient

/-!
# Percent signs

In an address a percent sign and two hexadecimal digits stand for one byte of UTF-8. A percent sign
with anything else behind it stands for itself.
-/

namespace MetricLedger.Text.Percent

/-- Decodes a text behind the bytes that are already known, the last of them first. A character
beyond ASCII ends a run of bytes, so that no byte is joined with it. -/
def decodeAfter (bytes : List UInt8) : List Char → List Char
  | [] => Utf8.decodeLeniently bytes.reverse
  | '%' :: a :: b :: rest =>
    match hexValue? a, hexValue? b with
    | some high, some low => decodeAfter (UInt8.ofNat (high * 16 + low) :: bytes) rest
    | _, _ => decodeAfter (0x25 :: bytes) (a :: b :: rest)
  | c :: rest =>
    if c.toNat < 0x80 then decodeAfter (UInt8.ofNat c.toNat :: bytes) rest
    else Utf8.decodeLeniently bytes.reverse ++ c :: decodeAfter [] rest

def decode (text : List Char) : List Char := decodeAfter [] text

/-- In a form, a plus sign stands for a space. -/
def decodeForm (text : List Char) : List Char :=
  decode (text.map fun c => if c = '+' then ' ' else c)

example : decode "%3A%%41%4".toList = ":%A%4".toList := by decide

end MetricLedger.Text.Percent
