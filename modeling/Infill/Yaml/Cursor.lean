import Infill.Text.Basic

/-!
# A place in a YAML stream

A cursor is the rest of a stream together with the number of characters, lines and columns before
it.
-/

namespace Infill.Yaml

/-- Why a stream is not well formed. -/
inductive Fault
  | character
  | directive
  | anchor
  | tag
  | blockScalar
  | flowScalar
  | plainScalar
  | simpleKey
  | context
  | token
  | documentStart
  | entry
  | content
  | unknownAnchor
  | severalDocuments
deriving DecidableEq, Repr

/-- The wording of a fault. -/
def Fault.message : Fault → Text
  | .character => "control characters are not allowed".toList
  | .directive => "invalid directive".toList
  | .anchor => "did not find expected alphabetic or numeric character".toList
  | .tag => "invalid tag".toList
  | .blockScalar => "invalid block scalar".toList
  | .flowScalar => "invalid quoted scalar".toList
  | .plainScalar => "invalid plain scalar".toList
  | .simpleKey => "could not find expected ':'".toList
  | .context => "not allowed in this context".toList
  | .token => "found character that cannot start any token".toList
  | .documentStart => "did not find expected <document start>".toList
  | .entry => "did not find expected entry".toList
  | .content => "did not find expected node content".toList
  | .unknownAnchor => "unknown anchor".toList
  | .severalDocuments => "more than one document".toList

/-- A place in a stream. -/
structure Cursor where
  rest : Text
  index : Nat := 0
  line : Nat := 0
  column : Nat := 0

/-- Whether a character ends a line. -/
def isBreak (c : Char) : Bool :=
  c == '\n' || c == '\r' || c == '\x85' || c == '\u2028' || c == '\u2029'

/-- Whether a character is a space or a tab. -/
def isBlank (c : Char) : Bool := c == ' ' || c == '\t'

/-- Whether a character can stand in an anchor or a tag handle. -/
def isNameChar (c : Char) : Bool := Text.isLetter c || Text.isDigit c || c == '_' || c == '-'

/-- Whether a line or the stream ends here. -/
def isBreakOrEnd : Option Char → Bool
  | none => true
  | some c => isBreak c

/-- Whether a blank, a line end or the end of the stream is here. -/
def isBlankOrEnd : Option Char → Bool
  | none => true
  | some c => isBlank c || isBreak c

namespace Cursor

/-- The character `n` places ahead. -/
def peek (c : Cursor) (n : Nat) : Option Char := c.rest[n]?

/-- Whether the character here is `ch`. -/
def at? (c : Cursor) (ch : Char) : Bool := c.rest.head? == some ch

/-- Goes `n` characters on within the line. -/
def skip (c : Cursor) (n : Nat) : Cursor :=
  { c with rest := c.rest.drop n, index := c.index + n, column := c.column + n }

/-- The characters here that `p` accepts, and the place behind them. -/
def takeWhile (c : Cursor) (p : Char → Bool) : Text × Cursor :=
  let taken := c.rest.takeWhile p
  (taken, c.skip taken.length)

/-- The place behind the characters that `p` accepts. -/
def skipWhile (c : Cursor) (p : Char → Bool) : Cursor := (c.takeWhile p).2

/-- Takes a line end, if one is here, as it counts in content. -/
def takeLine (c : Cursor) : Text × Cursor :=
  match c.rest with
  | '\r' :: '\n' :: rest =>
    (['\n'], { rest, index := c.index + 2, line := c.line + 1, column := 0 })
  | ch :: rest =>
    if isBreak ch then
      (if ch == '\u2028' || ch == '\u2029' then [ch] else ['\n'],
        { rest, index := c.index + 1, line := c.line + 1, column := 0 })
    else ([], c)
  | [] => ([], c)

/-- The place behind a line end. -/
def skipLine (c : Cursor) : Cursor := c.takeLine.2

/-- Whether `---` or `...` stands here at the start of a line. -/
def atDocumentMark (c : Cursor) : Bool :=
  c.column == 0 && isBlankOrEnd (c.peek 3) &&
    (Text.startsWith c.rest ['-', '-', '-'] || Text.startsWith c.rest ['.', '.', '.'])

/-- The place behind the blanks and the comment at the end of a line, which has to end there. -/
def finishLine (c : Cursor) (fault : Fault) : Except Fault Cursor :=
  let c := c.skipWhile isBlank
  let c := if c.at? '#' then c.skipWhile (fun ch => !isBreak ch) else c
  if isBreakOrEnd (c.peek 0) then .ok c.skipLine else .error fault

end Cursor

/-- Whether a character may stand in a stream. -/
def isPrintable (c : Char) : Bool :=
  let n := c.toNat
  n == 0x09 || n == 0x0A || n == 0x0D || (0x20 ≤ n && n ≤ 0x7E) || n == 0x85 ||
    (0xA0 ≤ n && n ≤ 0xFFFD) || 0x10000 ≤ n

end Infill.Yaml
