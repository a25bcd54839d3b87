import Infill.Text.Utf8
import Infill.Yaml.Scalar

/-!
# Anchors, tags and directives

The parts of a YAML stream that are said about nodes and documents: the name of an anchor, the
handle and the suffix of a tag, and the directives that give the version and abbreviate tags.
-/

namespace Infill.Yaml

/-- A tag as it is written: a handle, and a suffix, of which `%` escapes have been resolved.  The
handle is empty if the suffix is the whole tag. -/
structure TagName where
  handle : Text
  suffix : Bytes
deriving DecidableEq, Repr

/-- A directive in front of a document. -/
inductive Directive
  | version (major minor : Nat)
  | abbreviation (handle : Text) (lead : Bytes)
deriving DecidableEq, Repr

/-- Whether a character can follow an anchor. -/
def endsAnchor : Option Char → Bool
  | none => true
  | some c =>
    isBlank c || isBreak c || c == '?' || c == ':' || c == ',' || c == ']' || c == '}' ||
      c == '%' || c == '@' || c == '`'

/-- Takes the name of an anchor or an alias, indicator included. -/
def takeAnchor (c : Cursor) : Read Text :=
  let (name, c) := (c.skip 1).takeWhile isNameChar
  if name != [] && endsAnchor (c.peek 0) then .ok (name, c) else .error .anchor

/-- Whether a character can stand in a tag.  Flow indicators can do so between angle brackets and
in directives only. -/
def isUriChar (flow : Bool) (c : Char) : Bool :=
  isNameChar c || c == ';' || c == '/' || c == '?' || c == ':' || c == '@' || c == '&' ||
    c == '=' || c == '+' || c == '$' || c == '.' || c == '%' || c == '!' || c == '~' || c == '*' ||
    c == '\'' || c == '(' || c == ')' || (flow && (c == ',' || c == '[' || c == ']'))

/-- The byte that `%` and two hexadecimal digits stand for. -/
def takeOctet (c : Cursor) : Read Nat :=
  match c.rest with
  | '%' :: high :: low :: _ =>
    match Text.natOfDigits? 16 [high, low] with
    | some n => .ok (n, c.skip 3)
    | none => .error .tag
  | _ => .error .tag

/-- How many bytes the character has that starts with this one. -/
def octetsAfter? (first : Nat) : Option Nat :=
  if first < 0x80 then some 0
  else if 0xC0 ≤ first ∧ first < 0xE0 then some 1
  else if 0xE0 ≤ first ∧ first < 0xF0 then some 2
  else if 0xF0 ≤ first ∧ first < 0xF8 then some 3
  else none

/-- Takes the escaped bytes that continue a character. -/
def takeOctets : (count : Nat) → Cursor → Read Bytes
  | 0, c => .ok ([], c)
  | count + 1, c =>
    match takeOctet c with
    | .error fault => .error fault
    | .ok (n, c) =>
      if 0x80 ≤ n ∧ n < 0xC0 then
        match takeOctets count c with
        | .error fault => .error fault
        | .ok (more, c) => .ok (UInt8.ofNat n :: more, c)
      else .error .tag

/-- Takes a character that is written with escapes. -/
def takeEscapedChar (c : Cursor) : Read Bytes :=
  match takeOctet c with
  | .error fault => .error fault
  | .ok (first, c) =>
    match octetsAfter? first with
    | none => .error .tag
    | some count =>
      match takeOctets count c with
      | .error fault => .error fault
      | .ok (more, c) => .ok (UInt8.ofNat first :: more, c)

/-- Takes the characters of a tag.  `seen` holds what has been read, last byte first. -/
def takeUriFrom (flow : Bool) : (fuel : Nat) → (seen : Bytes) → Cursor → Read Bytes
  | 0, _, _ => .error .tag
  | fuel + 1, seen, c =>
    match c.peek 0 with
    | none => .ok (seen.reverse, c)
    | some '%' =>
      match takeEscapedChar c with
      | .error fault => .error fault
      | .ok (bytes, c) => takeUriFrom flow fuel (bytes.reverse ++ seen) c
    | some ch =>
      if isUriChar flow ch then
        takeUriFrom flow fuel ((Utf8.encodeChar ch).reverse ++ seen) (c.skip 1)
      else .ok (seen.reverse, c)

/-- Takes the characters of a tag behind `lead`; together they may not be empty. -/
def takeUri (flow : Bool) (lead : Text) (c : Cursor) : Read Bytes :=
  match takeUriFrom flow (c.rest.length + 1) [] c with
  | .error fault => .error fault
  | .ok (bytes, after) =>
    if bytes = [] ∧ lead = [] then .error .tag
    else .ok (Utf8.encode (lead.drop 1) ++ bytes, after)

/-- Takes a tag handle: `!`, the characters of a name, and a closing `!` if there is one. -/
def takeHandle (c : Cursor) : Read Text :=
  if c.at? '!' then
    let (name, c) := (c.skip 1).takeWhile isNameChar
    if c.at? '!' then .ok ('!' :: name ++ ['!'], c.skip 1) else .ok ('!' :: name, c)
  else .error .tag

/-- Whether a handle is closed by a `!` of its own. -/
def isClosedHandle (handle : Text) : Bool := 2 ≤ handle.length && handle.getLast? == some '!'

/-- Takes a tag without what has to follow it. -/
def takeTagName (c : Cursor) : Read TagName :=
  if c.peek 1 == some '<' then
    match takeUri true [] (c.skip 2) with
    | .error fault => .error fault
    | .ok (suffix, c) =>
      if c.at? '>' then .ok ({ handle := [], suffix }, c.skip 1) else .error .tag
  else
    match takeHandle c with
    | .error fault => .error fault
    | .ok (handle, c) =>
      if isClosedHandle handle then
        match takeUri false [] c with
        | .error fault => .error fault
        | .ok (suffix, c) => .ok ({ handle, suffix }, c)
      else
        match takeUri false handle c with
        | .error fault => .error fault
        | .ok ([], c) => .ok ({ handle := [], suffix := Utf8.encode ['!'] }, c)
        | .ok (suffix, c) => .ok ({ handle := ['!'], suffix }, c)

/-- Takes a tag, which a blank, a line end or, in a flow collection, a comma has to follow. -/
def takeTag (inFlow : Bool) (c : Cursor) : Read TagName :=
  match takeTagName c with
  | .error fault => .error fault
  | .ok (tag, c) =>
    if (inFlow && c.at? ',') || isBlankOrEnd (c.peek 0) then .ok (tag, c) else .error .tag

/-- Takes a number of a version, of at most nine digits. -/
def takeVersionNumber (c : Cursor) : Read Nat :=
  let (digits, c) := c.takeWhile Text.isDigit
  match Text.natOfDigits? 10 digits with
  | some n => if digits.length ≤ 9 then .ok (n, c) else .error .directive
  | none => .error .directive

/-- Takes the version behind `%YAML`. -/
def takeVersion (c : Cursor) : Read Directive :=
  match takeVersionNumber (c.skipWhile isBlank) with
  | .error fault => .error fault
  | .ok (major, c) =>
    if c.at? '.' then
      match takeVersionNumber (c.skip 1) with
      | .error fault => .error fault
      | .ok (minor, c) => .ok (.version major minor, c)
    else .error .directive

/-- Takes the handle and what it stands for behind `%TAG`. -/
def takeAbbreviation (c : Cursor) : Read Directive :=
  match takeHandle (c.skipWhile isBlank) with
  | .error fault => .error fault
  | .ok (handle, c) =>
    if (isClosedHandle handle || handle == ['!']) && (c.peek 0).any isBlank then
      match takeUri true [] (c.skipWhile isBlank) with
      | .error fault => .error fault
      | .ok (lead, c) =>
        if isBlankOrEnd (c.peek 0) then .ok (.abbreviation handle lead, c) else .error .directive
    else .error .directive

/-- Takes a directive to the end of its line. -/
def takeDirective (c : Cursor) : Read Directive :=
  let (name, c) := (c.skip 1).takeWhile isNameChar
  if name = [] || !isBlankOrEnd (c.peek 0) then .error .directive
  else
    let directive :=
      if name = "YAML".toList then takeVersion c
      else if name = "TAG".toList then takeAbbreviation c
      else .error .directive
    match directive with
    | .error fault => .error fault
    | .ok (d, c) =>
      match c.finishLine .directive with
      | .error fault => .error fault
      | .ok c => .ok (d, c)

end Infill.Yaml
