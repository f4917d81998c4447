import SqlBuilder.Grammar.Feature

/-!
# Errors

Why a call fails. A call that cannot fail by itself records its fault on the query instead, and the
query reports the first one when it is built.
-/

namespace SqlBuilder

/-- A key look-up with the wrong number of values. -/
inductive KeyArityError where
  | tooFew (expected got : Nat)
  | tooMany (expected got : Nat)
  deriving DecidableEq, Repr

namespace KeyArityError

/-- The error in words. -/
def message : KeyArityError → String
  | .tooFew expected got => s!"too few primary key values: expected {expected}, got {got}"
  | .tooMany expected got => s!"too many primary key values: expected {expected}, got {got}"

/-- Compares a number of values with the number of key columns. -/
def check (expected got : Nat) : Except KeyArityError Unit :=
  if got < expected then .error (.tooFew expected got)
  else if expected < got then .error (.tooMany expected got)
  else .ok ()

end KeyArityError

/-- Why building or running a query fails. -/
inductive QueryError where
  /-- A clause to replace, or to count from, is absent. -/
  | missingClause (keyword : String)
  /-- A model-aware call on a query without a fitting model. -/
  | missingModel (detail : String)
  /-- An insertion or update without fields. -/
  | incompleteExpression (detail : String)
  /-- An expression that cannot be compiled. -/
  | invalidExpression (detail : String)
  | keyArity (error : KeyArityError)
  /-- The connection refused to write a value inline. -/
  | quoteRefused (detail : String)
  /-- The dialect lacks a construct. -/
  | unsupported (dialect feature : String)
  | notFound (detail : String)
  /-- A result column does not hold what was expected. -/
  | decode (column detail : String)
  deriving DecidableEq, Repr

/-- The error in words. -/
def QueryError.message : QueryError → String
  | .missingClause keyword => "Missing clause: " ++ keyword
  | .missingModel detail => "Missing model: " ++ detail
  | .incompleteExpression detail => "Incomplete expression: " ++ detail
  | .invalidExpression detail => "Invalid expression: " ++ detail
  | .keyArity error => "Primary key arity: " ++ error.message
  | .quoteRefused detail => "Connection failed to quote value: " ++ detail
  | .unsupported dialect feature => feature ++ " is not supported by the " ++ dialect ++ " dialect"
  | .notFound detail => "Not found: " ++ detail
  | .decode column detail => "Decode error on column '" ++ column ++ "': " ++ detail

/-- What went wrong inside a call that cannot fail by itself. -/
inductive Fault where
  /-- The connection refused to write a value inline. -/
  | quoteRefused (detail : String)
  /-- The dialect lacks a construct. -/
  | unsupported (dialect : String) (feature : Feature)
  deriving DecidableEq, Repr

/-- The error that a recorded fault becomes. -/
def Fault.toError : Fault → QueryError
  | .quoteRefused detail => .quoteRefused detail
  | .unsupported dialect feature => .unsupported dialect feature.text

end SqlBuilder
