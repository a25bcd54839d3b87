import Infill.Action

/-!
# Looking values up

The value of a field of a secret comes from the secret store, and that of a setting from the
key-value file.  What is not there is empty.
-/

namespace Infill

/-- The field of a secret, read in a session. -/
def readField (s : Session) (path key : Text) : Action Text := do
  let request ← Action.ofResult (Secret.request s path)
  let response ← Action.ask request
  Action.ofResult (Secret.field path key response)

/-- The field of a secret, empty if it is not there. -/
def resolveSecret (path key : Text) : Action Text := do
  let s ← Action.session
  (readField s path key).orIfMissing []

/-- A setting, empty if it is not there. -/
def resolveReference (key : Text) : Action Text := do
  let s ← Action.settings
  return (s.get? key).getD []

end Infill
