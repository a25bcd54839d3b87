import Infill.Pattern.Class

/-!
# Blanks, numbers and escapes in patterns

The smallest parts of the syntax of patterns: blanks and comments that the flag `x` lets pass,
counts, and what stands after a backslash.  Every function takes the rest of the pattern and gives
back what it leaves of it.
-/

namespace Infill.Pattern

open Infill.Unicode (CharSet)

/-- Drops white space and comments, each from `#` to the end of its line. -/
def dropBlanks : (inComment : Bool) → Text → Text
  | _, [] => []
  | true, c :: rest => dropBlanks (c != '\n') rest
  | false, c :: rest =>
    if Text.isBlank c then dropBlanks false rest
    else if c == '#' then dropBlanks true rest
    else c :: rest

/-- Drops white space and comments where the flag `x` lets them pass. -/
def Flags.pass (flags : Flags) (t : Text) : Text :=
  if flags.ignoreBlank then dropBlanks false t else t

/-- What a pattern's next character can be, besides an operator. -/
inductive Primitive
  /-- A character; `byte` if it was written as a byte of two hexadecimal digits. -/
  | literal (c : Char) (byte : Bool)
  | members (s : CharSet)
  | assertion (l : Look)

/-- A result together with the rest of the pattern. -/
abbrev Read (α : Type) := Except Fault (α × Text)

/-- The ASCII digits at the start, between which blanks may pass. -/
def digitsOf (flags : Flags) : (fuel : Nat) → Text → Text × Text
  | 0, t => ([], t)
  | _ + 1, [] => ([], [])
  | fuel + 1, c :: rest =>
    if Text.isDigit c then
      let (digits, after) := digitsOf flags fuel (flags.pass rest)
      (c :: digits, after)
    else ([], c :: rest)

/-- A count of at most 32 bits between white space; `none` if there is no digit. -/
def readCount (flags : Flags) (t : Text) : Read (Option Nat) :=
  let (digits, after) := digitsOf flags t.length (Text.trimStart t)
  let after := flags.pass (Text.trimStart after)
  if digits = [] then .ok (none, after)
  else
    match Text.natOfDigits? 10 digits with
    | some n => if n < Nat.pow 2 32 then .ok (some n, after) else .error .repetition
    | none => .error .repetition

/-- The character with a number written in hexadecimal digits. -/
def charOfHex (digits : Text) : Except Fault Char :=
  match Text.natOfDigits? 16 digits with
  | some n => if h : n.isValidChar then .ok (Char.ofNatAux n h) else .error .hexadecimal
  | none => .error .hexadecimal

/-- The given number of hexadecimal digits, between which blanks may pass. -/
def readHexDigits (flags : Flags) : (count : Nat) → Text → Read Text
  | 0, t => .ok ([], t)
  | _ + 1, [] => .error .escape
  | count + 1, c :: rest =>
    if (Text.digitValue? 16 c).isNone then .error .hexadecimal
    else
      match readHexDigits flags count (flags.pass rest) with
      | .ok (digits, after) => .ok (c :: digits, after)
      | .error fault => .error fault

/-- The characters before the next `}`, between which blanks may pass. -/
def readBraced (flags : Flags) : (fuel : Nat) → Text → Read Text
  | 0, _ => .error .escape
  | _ + 1, [] => .error .escape
  | fuel + 1, c :: rest =>
    if c == '}' then .ok ([], rest)
    else
      match readBraced flags fuel (flags.pass rest) with
      | .ok (more, after) => .ok (c :: more, after)
      | .error fault => .error fault

/-- Reads what follows `\x`, `\u` or `\U`, which take `count` digits or any number in braces. -/
def readHex (flags : Flags) (count : Nat) (t : Text) : Read Primitive :=
  match flags.pass t with
  | '{' :: inner =>
    match readBraced flags (inner.length + 1) (flags.pass inner) with
    | .error fault => .error fault
    | .ok (digits, after) =>
      match charOfHex digits with
      | .ok c => .ok (.literal c false, flags.pass after)
      | .error fault => .error fault
  | start =>
    match readHexDigits flags count start with
    | .error fault => .error fault
    | .ok (digits, after) =>
      match charOfHex digits with
      | .ok c => .ok (.literal c (count == 2), flags.pass after)
      | .error fault => .error fault

/-- The set that a property in braces stands for, and whether it is turned round. -/
def bracedProperty? (name : Text) : Option CharSet × Bool :=
  match afterPart "!=".toList name with
  | some (property, value) => (Flags.valueSet? (looseName property) (looseName value), true)
  | none =>
    match (afterPart ":".toList name).orElse fun _ => afterPart "=".toList name with
    | some (property, value) => (Flags.valueSet? (looseName property) (looseName value), false)
    | none => (Flags.propertySet? (looseName name), false)
where
  /-- What stands before and after the first occurrence of a part. -/
  afterPart (part : Text) : Text → Option (Text × Text)
    | [] => none
    | c :: rest =>
      match afterLead? part (c :: rest) with
      | some after => some ([], after)
      | none => (afterPart part rest).map fun (before, after) => (c :: before, after)

/-- The set of a property under the flags. -/
def propertyMembers (flags : Flags) (negated : Bool) (property : Option CharSet) :
    Except Fault CharSet :=
  if !flags.unicode then .error .notText
  else
    match property with
    | none => .error .property
    | some s => flags.negate negated (flags.fold s)

/-- Reads what follows `\p` or `\P`. -/
def readProperty (flags : Flags) (negated : Bool) (t : Text) : Read Primitive :=
  match flags.pass t with
  | [] => .error .escape
  | '{' :: inner =>
    match readBraced flags (inner.length + 1) (flags.pass inner) with
    | .error fault => .error fault
    | .ok (name, after) =>
      let (property, turned) := bracedProperty? name
      match propertyMembers flags (negated != turned) property with
      | .ok s => .ok (.members s, after)
      | .error fault => .error fault
  | c :: rest =>
    if c == '\\' then .error .property
    else
      match propertyMembers flags negated (Flags.propertySet? (looseName [c])) with
      | .ok s => .ok (.members s, flags.pass rest)
      | .error fault => .error fault

/-- The letters and hyphens at the start, between which blanks may pass. -/
def lettersOf (flags : Flags) : (fuel : Nat) → Text → Text × Text
  | 0, t => ([], t)
  | _ + 1, [] => ([], [])
  | fuel + 1, c :: rest =>
    if Text.isLetter c || c == '-' then
      let (letters, after) := lettersOf flags fuel (flags.pass rest)
      (c :: letters, after)
    else ([], c :: rest)

/-- Reads what follows `\b`: a name in braces for one half or side of a word boundary, or nothing
that belongs to it. -/
def readBoundary (flags : Flags) (t : Text) : Read Look :=
  match t with
  | '{' :: inner =>
    match flags.pass inner with
    | [] => .error .boundary
    | c :: rest =>
      if !(Text.isLetter c || c == '-') then .ok (.boundary flags.unicode, t)
      else
        let (name, after) := lettersOf flags (rest.length + 1) (c :: rest)
        match after with
        | '}' :: after =>
          match String.ofList name with
          | "start" => .ok (.wordStart flags.unicode, after)
          | "end" => .ok (.wordStop flags.unicode, after)
          | "start-half" => .ok (.wordStartHalf flags.unicode, after)
          | "end-half" => .ok (.wordStopHalf flags.unicode, after)
          | _ => .error .boundary
        | _ => .error .boundary
  | _ => .ok (.boundary flags.unicode, t)

/-- The control characters that have a letter of their own. -/
def controlLetter? (c : Char) : Option Char :=
  match c with
  | 'a' => some '\x07'
  | 'f' => some '\x0C'
  | 't' => some '\t'
  | 'n' => some '\n'
  | 'r' => some '\r'
  | 'v' => some '\x0B'
  | _ => none

/-- Whether a character stands for itself after a backslash: every ASCII character but letters,
digits and angle brackets. -/
def isEscapable (c : Char) : Bool :=
  c.toNat < 0x80 && !Text.isLetter c && !Text.isDigit c && c != '<' && c != '>'

/-- Reads what follows a backslash. -/
def readEscape (flags : Flags) : Text → Read Primitive
  | [] => .error .escape
  | c :: rest =>
    match c with
    | 'x' => readHex flags 2 rest
    | 'u' => readHex flags 4 rest
    | 'U' => readHex flags 8 rest
    | 'p' => readProperty flags false rest
    | 'P' => readProperty flags true rest
    | 'A' => .ok (.assertion .start, rest)
    | 'z' => .ok (.assertion .stop, rest)
    | 'B' => .ok (.assertion (.noBoundary flags.unicode), rest)
    | '<' => .ok (.assertion (.wordStart flags.unicode), rest)
    | '>' => .ok (.assertion (.wordStop flags.unicode), rest)
    | 'b' =>
      match readBoundary flags rest with
      | .ok (l, after) => .ok (.assertion l, after)
      | .error fault => .error fault
    | _ =>
      if Text.isDigit c then .error .backreference
      else if c == 'd' || c == 's' || c == 'w' then .ok (.members (flags.perlSet c), rest)
      else if c == 'D' || c == 'S' || c == 'W' then
        match flags.negate true (flags.perlSet (Text.lowerAscii c)) with
        | .ok s => .ok (.members s, rest)
        | .error fault => .error fault
      else if isEscapable c then .ok (.literal c false, rest)
      else
        match controlLetter? c with
        | some c => .ok (.literal c false, rest)
        | none => .error .escape

end Infill.Pattern
