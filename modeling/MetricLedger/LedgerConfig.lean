import MetricLedger.Refusal

/-!
# Configuration of a ledger

Who may post, and over which channel tokens come, if over any. Both are Unicode texts.
-/

namespace MetricLedger

open Json (Value)

structure LedgerConfig where
  admin : String
  channel : Option String
deriving DecidableEq, Repr, Inhabited

namespace LedgerConfig

def checkChannel (channel : String) : Except Refusal Unit :=
  if isChannel channel then .ok () else .error (.badChannel channel)

def check (c : LedgerConfig) : Except Refusal Unit :=
  if c.admin = "" then .error .emptyAdmin
  else
    match c.channel with
    | some channel => checkChannel channel
    | none => .ok ()

def toAnswer (c : LedgerConfig) : Value :=
  .object [("admin_address", .text c.admin), ("transfer_channel_id", Value.ofOption c.channel)]

end LedgerConfig

end MetricLedger
