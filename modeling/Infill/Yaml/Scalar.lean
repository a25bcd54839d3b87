import Infill.Yaml.Cursor

/-!
# Scalars

The texts in a YAML stream: block scalars with their indentation, quoted scalars with their
escapes, and plain scalars.  Line ends within a scalar are folded as the style asks for.
-/

namespace Infill.Yaml

/-- A result together with the place behind it. -/
abbrev Read (α : Type) := Except Fault (α × Cursor)

/-- The line ends and the text before them that have been read but not yet put into a scalar. -/
structure Pending where
  blanks : Text := []
  /-- Whether a line end has been passed. -/
  broken : Bool := false
  first : Text := []
  more : Text := []

/-- What the pending blanks and line ends become in a flow scalar: a single line end is a space,
and of several the first is dropped. -/
def Pending.joined (p : Pending) : Text :=
  if p.broken then
    if p.first == ['\n'] then
      if p.more.isEmpty then [' '] else p.more
    else p.first ++ p.more
  else p.blanks

/-- Takes the blanks and line ends of a flow scalar.  In a plain scalar, blanks at the start of a
line may hold no tab left of column `indent`. -/
def takeBlanks (indent : Option Nat) : (fuel : Nat) → Pending → Cursor → Read Pending
  | 0, _, _ => .error .flowScalar
  | fuel + 1, p, c =>
    match c.peek 0 with
    | none => .ok (p, c)
    | some ch =>
      if isBlank ch then
        if p.broken && ch == '\t' && (indent.any fun i => c.column < i) then .error .plainScalar
        else if p.broken then takeBlanks indent fuel p (c.skip 1)
        else takeBlanks indent fuel { p with blanks := p.blanks ++ [ch] } (c.skip 1)
      else if isBreak ch then
        let (text, c) := c.takeLine
        if p.broken then takeBlanks indent fuel { p with more := p.more ++ text } c
        else takeBlanks indent fuel { p with blanks := [], broken := true, first := text } c
      else .ok (p, c)

/-- The character that a letter stands for behind a backslash in a double-quoted scalar. -/
def escaped? (ch : Char) : Option Char :=
  match ch with
  | '0' => some '\x00'
  | 'a' => some '\x07'
  | 'b' => some '\x08'
  | 't' => some '\t'
  | '\t' => some '\t'
  | 'n' => some '\n'
  | 'v' => some '\x0B'
  | 'f' => some '\x0C'
  | 'r' => some '\r'
  | 'e' => some '\x1B'
  | ' ' => some ' '
  | '"' => some '"'
  | '/' => some '/'
  | '\\' => some '\\'
  | 'N' => some '\x85'
  | '_' => some '\xA0'
  | 'L' => some '\u2028'
  | 'P' => some '\u2029'
  | _ => none

/-- How many hexadecimal digits follow a letter behind a backslash. -/
def codeLength? (ch : Char) : Option Nat :=
  match ch with
  | 'x' => some 2
  | 'u' => some 4
  | 'U' => some 8
  | _ => none

/-- Reads an escape behind its backslash. -/
def takeEscape (c : Cursor) : Read Char :=
  match c.peek 0 with
  | none => .error .flowScalar
  | some ch =>
    match codeLength? ch with
    | some length =>
      let c := c.skip 1
      let digits := c.rest.take length
      if digits.length < length then .error .flowScalar
      else
        match Text.natOfDigits? 16 digits with
        | none => .error .flowScalar
        | some n =>
          if h : n.isValidChar then .ok (Char.ofNatAux n h, c.skip length)
          else .error .flowScalar
    | none =>
      match escaped? ch with
      | some value => .ok (value, c.skip 1)
      | none => .error .flowScalar

/-- Takes the characters of a quoted scalar up to a blank, a line end or the closing quote.  The
flag tells whether an escaped line end was taken, after which blanks do not count. -/
def takeQuotedRun (single : Bool) : (fuel : Nat) → Text → Cursor → Read (Text × Bool)
  | 0, _, _ => .error .flowScalar
  | fuel + 1, seen, c =>
    match c.peek 0 with
    | none => .ok ((seen, false), c)
    | some ch =>
      if isBlank ch || isBreak ch then .ok ((seen, false), c)
      else if single then
        if ch == '\'' then
          if c.peek 1 == some '\'' then takeQuotedRun single fuel ('\'' :: seen) (c.skip 2)
          else .ok ((seen, false), c)
        else takeQuotedRun single fuel (ch :: seen) (c.skip 1)
      else if ch == '"' then .ok ((seen, false), c)
      else if ch == '\\' then
        if (c.peek 1).any isBreak then .ok ((seen, true), (c.skip 1).skipLine)
        else
          match takeEscape (c.skip 1) with
          | .ok (value, c) => takeQuotedRun single fuel (value :: seen) c
          | .error fault => .error fault
      else takeQuotedRun single fuel (ch :: seen) (c.skip 1)

/-- Takes the rest of a quoted scalar.  `seen` holds its text so far, last character first. -/
def takeQuotedFrom (single : Bool) : (fuel : Nat) → Text → Cursor → Read Text
  | 0, _, _ => .error .flowScalar
  | fuel + 1, seen, c =>
    if c.atDocumentMark then .error .flowScalar
    else if c.rest.isEmpty then .error .flowScalar
    else
      match takeQuotedRun single (c.rest.length + 1) seen c with
      | .error fault => .error fault
      | .ok ((seen, broken), c) =>
        if c.at? (if single then '\'' else '"') then .ok (seen.reverse, c.skip 1)
        else
          match takeBlanks none (c.rest.length + 1) { broken } c with
          | .error fault => .error fault
          | .ok (p, c) => takeQuotedFrom single fuel (p.joined.reverse ++ seen) c

/-- Takes a quoted scalar, opening quote included. -/
def takeQuoted (single : Bool) (c : Cursor) : Read Text :=
  takeQuotedFrom single (c.rest.length + 1) [] (c.skip 1)

/-- Whether a plain scalar ends before a colon or a flow indicator here. -/
def endsPlain (inFlow : Bool) (ch : Char) (next : Option Char) : Bool :=
  (ch == ':' && isBlankOrEnd next) ||
    (inFlow && (ch == ',' || ch == '[' || ch == ']' || ch == '{' || ch == '}'))

/-- Whether a colon here makes a plain scalar in a flow collection ill formed. -/
def spoilsPlain (inFlow : Bool) (ch : Char) (next : Option Char) : Bool :=
  inFlow && ch == ':' &&
    (next.any fun n => n == ',' || n == '?' || n == '[' || n == ']' || n == '{' || n == '}')

/-- Takes the characters of a plain scalar up to a blank, a line end or an indicator.  What was
pending is put in front of the first of them. -/
def takePlainRun (inFlow : Bool) : (fuel : Nat) → Text → Pending → Cursor → Read (Text × Pending)
  | 0, _, _, _ => .error .plainScalar
  | fuel + 1, seen, p, c =>
    match c.peek 0 with
    | none => .ok ((seen, p), c)
    | some ch =>
      if isBlank ch || isBreak ch then .ok ((seen, p), c)
      else if spoilsPlain inFlow ch (c.peek 1) then .error .plainScalar
      else if endsPlain inFlow ch (c.peek 1) then .ok ((seen, p), c)
      else takePlainRun inFlow fuel (ch :: (p.joined.reverse ++ seen)) {} (c.skip 1)

/-- Takes the rest of a plain scalar; the flag tells whether a line end was passed behind it. -/
def takePlainFrom (inFlow : Bool) (indent : Nat) : (fuel : Nat) → Text → Pending → Cursor →
    Read (Text × Bool)
  | 0, _, _, _ => .error .plainScalar
  | fuel + 1, seen, p, c =>
    if c.atDocumentMark || c.at? '#' then .ok ((seen.reverse, p.broken), c)
    else
      match takePlainRun inFlow (c.rest.length + 1) seen p c with
      | .error fault => .error fault
      | .ok ((seen, p), c) =>
        if !(c.peek 0).any (fun ch => isBlank ch || isBreak ch) then
          .ok ((seen.reverse, p.broken), c)
        else
          match takeBlanks (some indent) (c.rest.length + 1) p c with
          | .error fault => .error fault
          | .ok (p, c) =>
            if !inFlow && c.column < indent then .ok ((seen.reverse, p.broken), c)
            else takePlainFrom inFlow indent fuel seen p c

/-- Takes a plain scalar. -/
def takePlain (inFlow : Bool) (indent : Nat) (c : Cursor) : Read (Text × Bool) :=
  takePlainFrom inFlow indent (c.rest.length + 1) [] {} c

/-- How the end of a block scalar is treated: all line ends dropped, one kept, or all kept. -/
inductive Chomping
  | strip
  | clip
  | keep
deriving DecidableEq

/-- Reads the indicators behind `|` or `>`: the chomping and how much deeper the content is
indented, zero if not given. -/
def takeHeader (c : Cursor) : Read (Chomping × Nat) :=
  let chomping? (c : Cursor) : Option Chomping :=
    if c.at? '+' then some .keep else if c.at? '-' then some .strip else none
  let digit? (c : Cursor) : Option Nat :=
    match c.peek 0 with
    | some ch => if Text.isDigit ch then some (ch.toNat - '0'.toNat) else none
    | none => none
  match chomping? c with
  | some chomping =>
    match digit? (c.skip 1) with
    | some 0 => .error .blockScalar
    | some n => .ok ((chomping, n), c.skip 2)
    | none => .ok ((chomping, 0), c.skip 1)
  | none =>
    match digit? c with
    | some 0 => .error .blockScalar
    | some n =>
      match chomping? (c.skip 1) with
      | some chomping => .ok ((chomping, n), c.skip 2)
      | none => .ok ((.clip, n), c.skip 1)
    | none => .ok ((.clip, 0), c)

/-- Takes indentation and empty lines of a block scalar.  With an indent of zero it is still to be
found; the deepest column reached is given back. -/
def takeBreaks (indent : Nat) : (fuel : Nat) → (deepest : Nat) → Text → Cursor →
    Read (Text × Nat)
  | 0, _, _, _ => .error .blockScalar
  | fuel + 1, deepest, breaks, c =>
    let spaces := (c.rest.takeWhile (· == ' ')).length
    let c := c.skip (if indent = 0 then spaces else min spaces (indent - c.column))
    let deepest := max deepest c.column
    if (indent = 0 || c.column < indent) && c.at? '\t' then .error .blockScalar
    else if (c.peek 0).any isBreak then
      let (text, c) := c.takeLine
      takeBreaks indent fuel deepest (breaks ++ text) c
    else .ok ((breaks, deepest), c)

/-- Takes the lines of a block scalar at the given indent.  `seen` holds the text so far, last
character first, `first` the line end before the next line and `more` those behind it, and
`wasBlank` tells whether the last line started with a blank.  The line ends behind the last line
are given back. -/
def takeBlockLines (literal : Bool) (indent : Nat) : (fuel : Nat) → (seen : Text) →
    (first more : Text) → (wasBlank : Bool) → Cursor → Read (Text × Text × Text)
  | 0, _, _, _, _, _ => .error .blockScalar
  | fuel + 1, seen, first, more, wasBlank, c =>
    if c.column == indent && !c.rest.isEmpty then
      let blank := (c.peek 0).any isBlank
      let lead :=
        if !literal && first == ['\n'] && !wasBlank && !blank then
          if more.isEmpty then [' '] else []
        else first
      let (line, c) := c.takeWhile (fun ch => !isBreak ch)
      let (first, c) := c.takeLine
      let seen' := line.reverse ++ (more.reverse ++ (lead.reverse ++ seen))
      match takeBreaks indent (c.rest.length + 1) 0 [] c with
      | .error fault => .error fault
      | .ok ((more, _), c) => takeBlockLines literal indent fuel seen' first more blank c
    else .ok ((seen, first, more), c)

/-- Takes a block scalar, indicator included, inside a collection at the given indentation. -/
def takeBlock (literal : Bool) (parent : Int) (c : Cursor) : Read Text :=
  match takeHeader (c.skip 1) with
  | .error fault => .error fault
  | .ok ((chomping, increment), c) =>
    match c.finishLine .blockScalar with
    | .error fault => .error fault
    | .ok c =>
      let given := if increment = 0 then 0 else (max parent 0).toNat + increment
      match takeBreaks given (c.rest.length + 1) 0 [] c with
      | .error fault => .error fault
      | .ok ((more, deepest), c) =>
        let indent :=
          if given = 0 then max (max deepest (parent + 1).toNat) 1 else given
        match takeBlockLines literal indent (c.rest.length + 1) [] [] more false c with
        | .error fault => .error fault
        | .ok ((seen, first, more), c) =>
          let tail :=
            match chomping with
            | .strip => []
            | .clip => first
            | .keep => first ++ more
          .ok (seen.reverse ++ tail, c)

end Infill.Yaml
