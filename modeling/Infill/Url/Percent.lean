import Infill.Text.Utf8

/-!
# Percent encoding

A character that cannot stand in a part of a URL is written as its UTF-8 bytes, each as `%` and two
hexadecimal digits.
-/

namespace Infill.Url

/-- Control characters and everything that is not ASCII, which stand in no part of a URL. -/
def isControl (c : Char) : Bool := c.toNat < 0x20 || 0x7E < c.toNat

/-- What cannot stand in a fragment. -/
def escapedInFragment (c : Char) : Bool :=
  isControl c || c == ' ' || c == '"' || c == '<' || c == '>' || c == '`'

/-- What cannot stand in a path. -/
def escapedInPath (c : Char) : Bool :=
  escapedInFragment c || c == '#' || c == '?' || c == '{' || c == '}'

/-- What cannot stand in a single segment of a path that is added to a URL. -/
def escapedInSegment (special : Bool) (c : Char) : Bool :=
  escapedInPath c || c == '/' || c == '%' || (special && c == '\\')

/-- What cannot stand in a user name or a password. -/
def escapedInUser (c : Char) : Bool :=
  escapedInPath c || c == '/' || c == ':' || c == ';' || c == '=' || c == '@' || c == '[' ||
    c == '\\' || c == ']' || c == '^' || c == '|'

/-- What cannot stand in a query. -/
def escapedInQuery (special : Bool) (c : Char) : Bool :=
  isControl c || c == ' ' || c == '"' || c == '#' || c == '<' || c == '>' ||
    (special && c == '\'')

/-- A hexadecimal digit, in upper case. -/
def hexDigit (n : Nat) : Char :=
  if n < 10 then Char.ofNat ('0'.toNat + n) else Char.ofNat ('A'.toNat + (n - 10))

/-- A byte as `%` and two digits. -/
def escapeByte (b : UInt8) : Text := ['%', hexDigit (b.toNat / 16), hexDigit (b.toNat % 16)]

/-- The text with the characters that `isEscaped` accepts written as bytes. -/
def escape (isEscaped : Char → Bool) (t : Text) : Text :=
  t.flatMap fun c => if isEscaped c then (Utf8.encodeChar c).flatMap escapeByte else [c]

/-- The bytes of a text in which some are escaped.  A `%` without two digits behind it stands for
itself. -/
def unescape : Text → Bytes
  | [] => []
  | '%' :: high :: low :: rest =>
    match Text.natOfDigits? 16 [high, low] with
    | some n => UInt8.ofNat n :: unescape rest
    | none => Utf8.encodeChar '%' ++ unescape (high :: low :: rest)
  | c :: rest => Utf8.encodeChar c ++ unescape rest

end Infill.Url
