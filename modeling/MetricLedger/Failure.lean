import MetricLedger.Refusal
import MetricLedger.Storage.Error

/-!
# How an operation fails

The ledger refuses it, the storage fails, or a value that was handed in or stored is malformed.
-/

namespace MetricLedger

inductive Failure where
  | refused (refusal : Refusal)
  | storage (error : StorageError)
  | malformed (fault : Malformed)
deriving DecidableEq, Repr, Inhabited

end MetricLedger
