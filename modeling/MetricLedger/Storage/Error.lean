import MetricLedger.Malformed

/-!
# Failures of the storage

Each names the part of the storage and the operation that failed. A report gives the wording, with
the details in order.
-/

namespace MetricLedger

open Json (Value)

inductive StorageError where
  | notFound (repository field id : String)
  | connection (repository operation reason : String)
  | query (repository operation reason : String)
  | transaction (repository operation phase reason : String)
  | unreadable (repository key : String) (fault : Malformed)
deriving DecidableEq, Repr, Inhabited

structure StorageReport where
  message : String
  repository : String
  operation : String
  details : List (String × Value)
deriving DecidableEq, Repr, Inhabited

namespace StorageReport

def line (r : StorageReport) : String := s!"[{r.repository}] {r.operation}: {r.message}"

def notFound (repository field : String) (id : Value) : StorageReport where
  message := s!"Record with {field}={id.bare} not found"
  repository := repository
  operation := "load"
  details := [(field, .text id.bare)]

def connection (repository operation reason : String) : StorageReport where
  message := s!"Database connection failed: {reason}"
  repository := repository
  operation := operation
  details := [("original_error", .text reason)]

def query (repository operation description reason : String) : StorageReport where
  message := s!"Query failed ({description}): {reason}"
  repository := repository
  operation := operation
  details := [("query_description", .text description), ("original_error", .text reason)]

def transaction (repository operation phase reason : String) : StorageReport where
  message := s!"Transaction {phase} failed: {reason}"
  repository := repository
  operation := operation
  details := [("phase", .text phase), ("original_error", .text reason)]

def unreadable (repository : String) (id : Value) (reason : String) : StorageReport where
  message := s!"Stored payload for {id.bare} is unreadable: {reason}"
  repository := repository
  operation := "deserialize"
  details := [("record_id", .text id.bare), ("reason", .text reason)]

end StorageReport

def StorageError.report : StorageError → StorageReport
  | notFound repository field id => .notFound repository field (.text id)
  | connection repository operation reason => .connection repository operation reason
  | query repository operation reason => .query repository operation operation reason
  | transaction repository operation phase reason =>
    .transaction repository operation phase reason
  | unreadable repository key fault =>
    .unreadable repository (.text key) (fault.message?.getD "value of an unsuitable kind")

end MetricLedger
