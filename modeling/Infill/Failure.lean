import Infill.Breach
import Infill.Disk.Path

/-!
# Failures

Why placeholders cannot be resolved.  That a secret is not there is no reason to stop; every other
failure is fatal.
-/

namespace Infill

/-- Why a value, a line or a stream cannot be had. -/
inductive Failure
  /-- An environment variable is not set, or empty. -/
  | configurationMissing (name : Text)
  /-- The key-value file cannot be used. -/
  | sourceUnreadable (path : Path) (reason : Text)
  /-- The secret or the field is not there. -/
  | notFound (what : Text)
  /-- The secret store cannot be asked, or answers with something unexpected. -/
  | transport (reason : Text)
  /-- The descriptor cannot be used. -/
  | descriptorInvalid (reason : Text)
  /-- The input holds a line that cannot be searched for placeholders. -/
  | invalidInput (reason : Text)
  /-- The input cannot be read to its end. -/
  | io (reason : Text)
deriving DecidableEq, Repr

namespace Failure

/-- The wording of a failure. -/
def message : Failure → Text
  | configurationMissing name => name ++ " environment variable not found".toList
  | sourceUnreadable path reason =>
    "Cannot read key-value file ".toList ++ path.quoted ++ ": ".toList ++ reason
  | notFound what => what
  | transport reason => "Secret store request failed: ".toList ++ reason
  | descriptorInvalid reason => "Invalid configuration file: ".toList ++ reason
  | invalidInput reason => "Invalid input: ".toList ++ reason
  | io reason => "I/O error: ".toList ++ reason

/-- The text of the cause, for a failure that has one of its own. -/
def cause? : Failure → Option Text
  | io reason => some reason
  | _ => none

/-- The wording of a failure with that of its cause behind it. -/
def report (f : Failure) : Text :=
  match f.cause? with
  | none => f.message
  | some cause => f.message ++ ": ".toList ++ cause

/-- Whether something is merely not there. -/
def isNotFound : Failure → Bool
  | notFound _ => true
  | _ => false

/-- Whether everything stops. -/
def isFatal (f : Failure) : Bool := !f.isNotFound

end Failure

/-- Whether something is merely not there. -/
def Stop.isNotFound : Stop Failure → Bool
  | failure f => f.isNotFound
  | breach _ => false

end Infill
