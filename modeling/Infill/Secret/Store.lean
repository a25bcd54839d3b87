import Infill.Json.Parser
import Infill.Secret.Session
import Infill.Url.Parser

/-!
# The secret store

A secret is asked for under the address of the store, and the answer is a JSON document that holds
the fields of the secret in `data.data`.  A secret, its fields or one of them can be missing; any
other unexpected answer is a failure.
-/

namespace Infill

/-- An answer of the store. -/
structure Response where
  status : Nat
  body : Text
deriving DecidableEq, Repr

/-- What the store is asked for, and the token that goes with it. -/
structure Request where
  url : Url
  token : Text
deriving DecidableEq, Repr

namespace Secret

/-- The parts of the path of a secret. -/
def segments (path : Text) : List Text := (pieces '/' path).filter (· != [])

/-- The address of a secret: that of the store, then `v1`, then the path of the secret. -/
def url (s : Session) (path : Text) : Except Failure Url :=
  match Url.parse s.host with
  | .error fault =>
    .error (.transport
      ("invalid ".toList ++ Session.hostVariable ++ " '".toList ++ s.host ++ "': ".toList ++
        fault.message))
  | .ok host =>
    match host.extend? ("v1".toList :: segments path) with
    | none =>
      .error (.transport
        (Session.hostVariable ++ " '".toList ++ s.host ++ "' is not a base URL".toList))
    | some url => .ok url

/-- The request for a secret. -/
def request (s : Session) (path : Text) : Except Failure Request :=
  match url s path with
  | .error f => .error f
  | .ok url => .ok { url, token := s.token }

/-- The messages in the body of a refusal, behind a colon. -/
def refusalDetail (body : Text) : Text :=
  match Json.parse body with
  | .error _ => []
  | .ok j =>
    match j.member? "errors".toList with
    | some (.array items) =>
      let messages := items.filterMap fun item =>
        match item with
        | .string t => some t
        | _ => none
      if messages = [] then [] else ": ".toList ++ Text.join "; ".toList messages
    | _ => []

/-- The failure of a secret that is not there. -/
def missing (path : Text) : Failure :=
  .notFound ("Secret \"".toList ++ path ++ "\" not found".toList)

/-- The failure of a secret without fields. -/
def withoutFields (path : Text) : Failure :=
  .notFound ("Data not found in secret \"".toList ++ path ++ "\"".toList)

/-- The failure of a field that is not there. -/
def withoutField (key : Text) : Failure :=
  .notFound ("Key \"".toList ++ key ++ "\" not found".toList)

/-- The fields in the document of a secret. -/
def fields? (document : Json) : Option (List (Text × Json)) :=
  match (document.member? "data".toList).bind (·.member? "data".toList) with
  | some (.object members) => some members
  | _ => none

/-- The text of a field: a string as it is, and any other value as JSON. -/
def fieldText (key : Text) : Option Json → Except Failure Text
  | none => .error (withoutField key)
  | some .null => .error (withoutField key)
  | some (.string t) => .ok t
  | some value => .ok value.text

/-- The field that an answer gives. -/
def field (path key : Text) (r : Response) : Except Failure Text :=
  if r.status = 404 then .error (missing path)
  else if r.status < 200 ∨ 299 < r.status then
    .error (.transport
      ("reading \"".toList ++ path ++ "\" returned HTTP ".toList ++ Text.decimal r.status ++
        refusalDetail r.body))
  else if Text.trim r.body = [] then .error (missing path)
  else
    match Json.parse r.body with
    | .error fault => .error (.transport ("malformed response: ".toList ++ fault.message))
    | .ok document =>
      match fields? document with
      | none => .error (withoutFields path)
      | some members => fieldText key (Json.lookUp key members)

end Secret

end Infill
