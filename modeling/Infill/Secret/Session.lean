import Infill.Failure

/-!
# Sessions

The address of the secret store and the token that opens it come from two environment variables.
-/

namespace Infill

/-- Environment variables with their values. -/
abbrev Environment := List (Text × Text)

/-- The value of a variable. -/
def Environment.get? (e : Environment) (name : Text) : Option Text :=
  (e.find? fun v => v.1 == name).map (·.2)

/-- Where the secret store is and what opens it. -/
structure Session where
  host : Text
  token : Text
deriving DecidableEq, Repr

namespace Session

/-- The variable with the address. -/
def hostVariable : Text := "VAULT_HOST".toList

/-- The variable with the token. -/
def tokenVariable : Text := "VAULT_TOKEN".toList

/-- The value of a variable that may not be empty. -/
def required (e : Environment) (name : Text) : Except Failure Text :=
  match e.get? name with
  | none => .error (.configurationMissing name)
  | some [] => .error (.configurationMissing name)
  | some value => .ok value

/-- The session of an environment. -/
def ofEnvironment (e : Environment) : Except Failure Session :=
  match required e hostVariable with
  | .error f => .error f
  | .ok host =>
    match required e tokenVariable with
    | .error f => .error f
    | .ok token => .ok { host, token }

/-- A description of the session that does not give its token away. -/
def description (s : Session) : Text :=
  "SecretStoreSession \x7b host: ".toList ++ Text.quoted s.host ++
    ", token: \"<redacted>\" \x7d".toList

end Session

end Infill
