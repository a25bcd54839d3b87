import Infill.Secret.Store

/-!
# Sending requests

Which requests can be sent to the secret store at all: they go to a host by HTTP, and the token has
to fit into a header.
-/

namespace Infill

namespace Url

/-- Whether a URL has a host. -/
def hasHost (u : Url) : Bool := u.authority.any fun a => !a.host.isEmpty

/-- The URL without user name and password, unless the user name is no text or there is nothing to
leave out. -/
def withoutUser (u : Url) : Url :=
  match u.authority with
  | none => u
  | some a =>
    let password := a.password.bind fun p => Utf8.decode? (unescape p)
    match Utf8.decode? (unescape a.user) with
    | none => u
    | some user =>
      if user = [] && password.isNone then u
      else { u with authority := some { a with user := [], password := none } }

end Url

namespace Request

/-- Whether a character can stand in a header. -/
def isHeaderChar (c : Char) : Bool := c == '\t' || (0x20 ≤ c.toNat && c.toNat != 0x7F)

/-- The wording of the refusal of a scheme. -/
def schemeRefused (u : Url) : Text :=
  "builder error for url (".toList ++ u.text ++ "): URL scheme is not allowed".toList

/-- Why a request is not sent. -/
def refusal? (r : Request) : Option Text :=
  if !r.url.hasHost then some (schemeRefused r.url)
  else if !r.token.all isHeaderChar then
    some "builder error: failed to parse header value".toList
  else if r.url.scheme != "http".toList && r.url.scheme != "https".toList then
    some (schemeRefused r.url.withoutUser)
  else none

/-- The wording of a request that does not arrive. -/
def unsent (r : Request) : Text :=
  "error sending request for url (".toList ++ r.url.text ++ [')']

/-- The answer to a request where no store can be reached. -/
def answerOffline (r : Request) : Except Text Response :=
  .error (r.refusal?.getD r.unsent)

end Request

end Infill
