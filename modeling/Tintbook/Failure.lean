import Tintbook.Store.Fault
import Tintbook.Json.Fault
/-!
# Why an operation failed

Every operation of the library either succeeds or fails for one of a few causes: the store
refused, the formula asked for does not exist, a submission broke a rule, a payload of lines
is no valid text, the file system failed, or the settings are wrong. Each cause has one
sentence, and `Failure.message` puts the kind of cause before it.

## What this module delivers

- `Rejection`: the rules a submission can break, with their `message`.
- `Failure`: the causes of failure, with `Failure.message` and `Failure.causes`.
-/

set_option autoImplicit false

namespace Tintbook

/-- A rule that a submission broke. -/
inductive Rejection where
  /-- The formula id given is no 64-bit integer. -/
  | badId (given : String)
  /-- A new formula needs a name. -/
  | nameRequired
  /-- A record of `entity` needs its `field` to be more than blanks. -/
  | fieldRequired (entity field : String)
  /-- The store refused a record of `entity`, for the given reason. -/
  | refused (entity reason : String)
  deriving DecidableEq, Repr

/-- The sentence for a broken rule. -/
def Rejection.message : Rejection → String
  | .badId g => "formula_id '" ++ g ++ "' is not a valid id"
  | .nameRequired => "formula_name is required"
  | .fieldRequired e f => e ++ " " ++ f ++ " is required"
  | .refused e r => e ++ " rejected: " ++ r

/-- Why an operation failed. -/
inductive Failure where
  | storage (fault : StoreFault)
  /-- No record of the named entity has the key asked for. -/
  | notFound (entity : String)
  | invalid (rule : Rejection)
  /-- A payload of lines is no valid text. -/
  | malformedPayload (error : Json.ReadError)
  | io (detail : String)
  | settings (detail : String)
  deriving Repr

/-- The sentence for a failure. -/
def Failure.message : Failure → String
  | .storage f => "storage error: " ++ f.message
  | .notFound e => e ++ " not found"
  | .invalid r => "validation failed: " ++ r.message
  | .malformedPayload e => "malformed payload: " ++ e.message
  | .io d => "io error: " ++ d
  | .settings d => "invalid configuration: " ++ d

/-- The causes under a failure, outermost first: the fault of the store or the file system,
or the reader's error for a payload, with their own causes. -/
def Failure.causes : Failure → List String
  | .storage f => f.causes
  | .malformedPayload e => [e.message]
  | .io d => [d]
  | .notFound _ | .invalid _ | .settings _ => []

end Tintbook
