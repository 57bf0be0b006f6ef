/-! # Telemetry

Each successful operation on a data source is submitted as one increment of a counter. A submission to
an HTTP endpoint is one post of a small JSON body; it arrives if the endpoint can be reached, and what
the endpoint answers changes nothing.
-/

namespace QueryableApi

/-- What was done with a data source. -/
inductive Operation
  /-- An item was read. -/
  | read
  /-- An item was created. -/
  | create
  /-- An item was changed. -/
  | update
  /-- An item was removed. -/
  | delete
deriving DecidableEq, Repr

/-- The name of an operation. -/
def Operation.name : Operation → String
  | read => "read"
  | create => "create"
  | update => "update"
  | delete => "delete"

/-- The operation with a name. -/
def Operation.ofName? : String → Option Operation
  | "read" => some .read
  | "create" => some .create
  | "update" => some .update
  | "delete" => some .delete
  | _ => none

/-- An operation on a data source, as submitted. -/
structure Submission where
  /-- The name of the data source. -/
  source : String
  /-- What was done. -/
  operation : Operation
deriving DecidableEq, Repr

/-- The name of the counter of a submission. -/
def Submission.metric (s : Submission) : String := s.source ++ "." ++ s.operation.name

end QueryableApi
