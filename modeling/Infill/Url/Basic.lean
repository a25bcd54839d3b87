import Infill.Url.Host

/-!
# URLs

A URL with its parts already escaped, and its text.
-/

namespace Infill.Url

/-- The part of a URL that names a machine. -/
structure Authority where
  user : Text := []
  password : Option Text := none
  host : Host
  port : Option Nat := none
deriving DecidableEq, Repr

/-- The path of a URL: the segments behind the slashes, or a text without any structure. -/
inductive Trail
  | segments (parts : List Text)
  | plain (text : Text)
deriving DecidableEq, Repr

end Infill.Url

namespace Infill

/-- A URL. -/
structure Url where
  scheme : Text
  authority : Option Url.Authority
  trail : Url.Trail
  /-- Whether `/.` stands in front of the path, so that it is not taken for an authority. -/
  guarded : Bool := false
  query : Option Text := none
  fragment : Option Text := none
deriving DecidableEq, Repr

namespace Url

/-- The port of a scheme whose URLs have a machine and a path. -/
def defaultPort? (scheme : Text) : Option Nat :=
  if scheme = "http".toList || scheme = "ws".toList then some 80
  else if scheme = "https".toList || scheme = "wss".toList then some 443
  else if scheme = "ftp".toList then some 21
  else none

/-- Whether a scheme is that of files. -/
def isFileScheme (scheme : Text) : Bool := scheme == "file".toList

/-- Whether the rules for the schemes of the web hold for a scheme. -/
def isSpecialScheme (scheme : Text) : Bool := isFileScheme scheme || (defaultPort? scheme).isSome

/-- User name, password, host and port. -/
def Authority.text (a : Authority) : Text :=
  let password :=
    match a.password with
    | none => []
    | some p => ':' :: p
  let user := if a.user = [] && a.password.isNone then [] else a.user ++ password ++ ['@']
  let port :=
    match a.port with
    | none => []
    | some p => ':' :: Text.decimal p
  user ++ a.host.text ++ port

/-- The text of a path. -/
def Trail.text : Trail → Text
  | segments parts => parts.flatMap fun part => '/' :: part
  | plain t => t

/-- The path of a URL. -/
def path (u : Url) : Text := u.trail.text

/-- The text of a URL. -/
def text (u : Url) : Text :=
  let authority :=
    match u.authority with
    | none => []
    | some a => ['/', '/'] ++ a.text
  let query :=
    match u.query with
    | none => []
    | some q => '?' :: q
  let fragment :=
    match u.fragment with
    | none => []
    | some f => '#' :: f
  u.scheme ++ [':'] ++ authority ++ (if u.guarded then ['/', '.'] else []) ++ u.path ++ query ++
    fragment

end Url

end Infill
