import MetricLedger.Digest.Sha256
import MetricLedger.Text.Loose

/-!
# Denoms and channels

A native denom has 3 to 128 characters: a letter, then letters, digits and separators. What a token
is called on the other side of a channel is a digest of the way it took there. The texts of a token
and a channel need not be Unicode here, as nothing but the encoding asks for that.
-/

namespace MetricLedger

/-- Why a text is no native denom. Of several causes the first in this order counts. -/
inductive DenomFault where
  | length
  | firstCharacter
  | otherCharacter
deriving DecidableEq, Repr, Inhabited

def DenomFault.reason : DenomFault → String
  | length => "Invalid denom length"
  | firstCharacter => "First character is not ASCII alphabetic"
  | otherCharacter => "Not all characters are ASCII alphanumeric or one of:  /  :  .  _  -"

namespace Denom

open Text (Loose Point)

def leastLength : Nat := 3

def greatestLength : Nat := 128

def separators : List Char := ['/', ':', '.', '_', '-']

/-- What may stand after the first character. Letters and digits are those of ASCII. -/
def isInner : Point → Bool
  | .char c => c.isAlphanum || separators.contains c
  | .half _ => false

def isFirst : Point → Bool
  | .char c => c.isAlpha
  | .half _ => false

def fault? : Loose → Option DenomFault
  | [] => some .length
  | first :: rest =>
    if rest.length + 1 < leastLength ∨ greatestLength < rest.length + 1 then some .length
    else if !isFirst first then some .firstCharacter
    else if !rest.all isInner then some .otherCharacter
    else none

def hashMark : String := "ibc/"

def isHashed (denom : Loose) : Bool := (Loose.ofString hashMark).isPrefixOf denom

/-- The way of a token over a channel. -/
def trace (denom channel : String) : String := s!"transfer/{channel}/{denom}"

def looseTrace (denom channel : Loose) : Loose :=
  .ofString "transfer/" ++ channel ++ .ofString "/" ++ denom

def named (way : String) : String :=
  hashMark ++ String.ofList (Digest.Sha256.chars (Text.Utf8.encode way))

/-- The name on the other side of the channel. -/
def hashed (denom channel : String) : String := named (trace denom channel)

inductive HashFault where
  | hashed (denom : Loose)
  | bad (fault : DenomFault)
  | unencodable
deriving DecidableEq, Repr, Inhabited

/-- The channel is not looked at, so its text need not have an encoding. -/
def hash (denom channel : Loose) : Except HashFault String := do
  if isHashed denom then throw (.hashed denom)
  if let some fault := fault? denom then throw (.bad fault)
  match (looseTrace denom channel).string? with
  | some way => return named way
  | none => throw .unencodable

end Denom

/-- A channel is known by a number. -/
def isChannel (channel : String) : Bool :=
  let mark := "channel-".toList
  let number := channel.toList.drop mark.length
  mark.isPrefixOf channel.toList && !number.isEmpty && number.all Char.isDigit

end MetricLedger
