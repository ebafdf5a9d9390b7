import MetricLedger.Text.Hex
import MetricLedger.Text.Printable

/-!
# Quoted text

Text in messages stands between single quotes, or between double quotes if it holds a single quote
and no double one. The backslash and the quote in use are escaped, and so is what cannot be printed.
-/

namespace MetricLedger.Text

def singleQuote : Char := Char.ofNat 0x27

def doubleQuote : Char := Char.ofNat 0x22

def quoteFor (text : List Char) : Char :=
  if singleQuote ∈ text ∧ doubleQuote ∉ text then doubleQuote else singleQuote

def escapeQuoted (quote c : Char) : List Char :=
  if c = quote ∨ c = '\\' then ['\\', c]
  else if c = '\n' then ['\\', 'n']
  else if c = '\r' then ['\\', 'r']
  else if c = '\t' then ['\\', 't']
  else if isPrintable c then [c]
  else if c.toNat ≤ 0xff then '\\' :: 'x' :: hex 2 c.toNat
  else if c.toNat ≤ 0xffff then '\\' :: 'u' :: hex 4 c.toNat
  else '\\' :: 'U' :: hex 8 c.toNat

def quotedChars (text : List Char) : List Char :=
  let quote := quoteFor text
  quote :: text.flatMap (escapeQuoted quote) ++ [quote]

def quoted (text : String) : String := String.ofList (quotedChars text.toList)

end MetricLedger.Text
