import Infill.Url.Segments

/-!
# Reading URLs
-/

namespace Infill.Url

/-- Takes a scheme and the colon behind it. -/
def takeScheme? (t : Text) : Option (Text × Text) :=
  let isSchemeChar (c : Char) : Bool :=
    Text.isLetter c || Text.isDigit c || c == '+' || c == '-' || c == '.'
  match t with
  | [] => none
  | c :: _ =>
    if Text.isLetter c then
      match t.dropWhile isSchemeChar with
      | ':' :: rest => some ((t.takeWhile isSchemeChar).map Text.lowerAscii, rest)
      | _ => none
    else none

/-- Whether an authority ends at a character. -/
def endsAuthority (special : Bool) (c : Char) : Bool :=
  c == '/' || c == '?' || c == '#' || (special && c == '\\')

/-- Whether a character is a slash in a URL. -/
def isSlash (special : Bool) (c : Char) : Bool := c == '/' || (special && c == '\\')

/-- The text before and behind the last `@` in front of the end of an authority. -/
def cutUser? (special : Bool) (t : Text) : Option (Text × Text) :=
  let part := t.takeWhile fun c => !endsAuthority special c
  match cutAt? (· == '@') part.reverse with
  | none => none
  | some (after, before) => some (before.reverse, t.drop (part.length - after.length))

/-- Reads user name and password. -/
def ofUser (t : Text) : Text × Option Text :=
  match cutAt? (· == ':') t with
  | none => (escape escapedInUser t, none)
  | some (user, []) => (escape escapedInUser user, none)
  | some (user, password) => (escape escapedInUser user, some (escape escapedInUser password))

/-- Takes user name and password, if there are any. -/
def takeUser (special : Bool) (t : Text) : Except Fault ((Text × Option Text) × Text) :=
  match cutUser? special t with
  | none => .ok (([], none), t)
  | some ([], rest) =>
    if rest.head?.any (endsAuthority special) then .error .emptyHost else .ok (([], none), rest)
  | some (user, rest) => .ok (ofUser user, rest)

/-- Takes the text of a host.  A colon ends it, unless it stands in square brackets. -/
def takeHostText (special : Bool) : (inBrackets : Bool) → Text → Text × Text
  | _, [] => ([], [])
  | inBrackets, c :: rest =>
    if (c == ':' && !inBrackets) || endsAuthority special c then ([], c :: rest)
    else
      let (host, rest) := takeHostText special (c == '[' || (inBrackets && c != ']')) rest
      (c :: host, rest)

/-- Takes a host. -/
def takeHost (special : Bool) (t : Text) : Except Fault (Host × Text) :=
  let (name, rest) := takeHostText special false t
  if special && name = [] then .error .emptyHost
  else
    match if special then Host.parse name else Host.parseUnknown name with
    | .error fault => .error fault
    | .ok host =>
      if host.isEmpty && (special || rest.head? == some ':') then .error .emptyHost
      else .ok (host, rest)

/-- Takes a port with its colon, if there is one.  The port of the scheme is left out. -/
def takePort (scheme : Text) (t : Text) : Except Fault (Option Nat × Text) :=
  match t with
  | ':' :: rest =>
    let digits := rest.takeWhile Text.isDigit
    let after := rest.dropWhile Text.isDigit
    if after.head?.all (fun c => endsAuthority true c) then
      match Text.natOfDigits? 10 digits with
      | none => .ok (none, after)
      | some port =>
        if 65535 < port then .error .port
        else .ok (if defaultPort? scheme = some port then none else some port, after)
    else .error .port
  | _ => .ok (none, t)

/-- Takes what stands behind the two slashes of an authority. -/
def takeAuthority (scheme : Text) (t : Text) : Except Fault (Authority × Text) := do
  let special := isSpecialScheme scheme
  let ((user, password), t) ← takeUser special t
  let (host, t) ← takeHost special t
  let (port, t) ← takePort scheme t
  if host.isEmpty && (user != [] || password.isSome) then throw .emptyHost
  return ({ user, password, host, port }, t)

/-- The text in front of a query or a fragment, and the rest. -/
def takePath (t : Text) : Text × Text :=
  (t.takeWhile fun c => c != '?' && c != '#', t.dropWhile fun c => c != '?' && c != '#')

/-- The URL with the query and the fragment in a text. -/
def withEnd (u : Url) (t : Text) : Url :=
  let special := isSpecialScheme u.scheme
  let fragment (t : Text) : Option Text :=
    match t with
    | '#' :: rest => some (escape escapedInFragment rest)
    | _ => none
  match t with
  | '?' :: rest =>
    { u with
      query := some (escape (escapedInQuery special) (rest.takeWhile (· != '#')))
      fragment := fragment (rest.dropWhile (· != '#')) }
  | _ => { u with fragment := fragment t }

/-- The text without a slash at its start. -/
def dropSlash (special : Bool) (t : Text) : Text :=
  match t with
  | c :: rest => if isSlash special c then rest else t
  | [] => []

/-- Reads a URL with an authority behind two slashes. -/
def ofAuthority (scheme : Text) (t : Text) : Except Fault Url := do
  let special := isSpecialScheme scheme
  let (authority, t) ← takeAuthority scheme t
  let (path, rest) := takePath t
  let parts :=
    if !special && path = [] then [] else segmentsOf special false (dropSlash special path)
  return withEnd { scheme, authority := some authority, trail := .segments parts } rest

/-- Reads the URL of a file behind its scheme. -/
def ofFile (scheme : Text) (t : Text) : Except Fault Url := do
  let (name, rest) :=
    match t with
    | a :: b :: rest =>
      if isSlash true a && isSlash true b then
        let name := rest.takeWhile fun c => !endsAuthority true c
        if isDriveLetter name then ([], rest) else (name, rest.drop name.length)
      else ([], t)
    | _ => ([], t)
  let host ← if name = [] then pure (Host.named []) else Host.parse name
  let host := if host = .named "localhost".toList then .named [] else host
  let (path, rest) := takePath rest
  let path := dropSlash true path
  let first := ((pieces '/' (path.map fun c => if c == '\\' then '/' else c)).head?.getD [])
  let host := if isDriveLetter first then .named [] else host
  return withEnd
    { scheme, authority := some { host }, trail := .segments (segmentsOf true true path) } rest

/-- Reads a URL of an unknown scheme without an authority. -/
def ofUnknown (scheme : Text) (t : Text) : Url :=
  let (path, rest) := takePath t
  match path with
  | '/' :: path =>
    let parts := segmentsOf false false path
    let guarded := 2 ≤ parts.length && parts.head? == some []
    withEnd { scheme, authority := none, trail := .segments parts, guarded } rest
  | _ => withEnd { scheme, authority := none, trail := .plain (escape isControl path) } rest

/-- Reads a URL.  White space and control characters around it do not count, nor do tabs and line
ends within it. -/
def parse (t : Text) : Except Fault Url :=
  let isOutside (c : Char) : Bool := c.toNat ≤ 0x20
  let t := (dropEndWhile isOutside (t.dropWhile isOutside)).filter fun c => !isDropped c
  match takeScheme? t with
  | none => .error .noScheme
  | some (scheme, rest) =>
    if isFileScheme scheme then ofFile scheme rest
    else if isSpecialScheme scheme then ofAuthority scheme (rest.dropWhile (isSlash true))
    else
      match rest with
      | '/' :: '/' :: rest => ofAuthority scheme rest
      | _ => .ok (ofUnknown scheme rest)

end Infill.Url
