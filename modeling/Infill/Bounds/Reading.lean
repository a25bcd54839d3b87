import Infill.Bounds.Basic
import Infill.Modifier.Chain
import Infill.Placeholder
import Infill.Settings.File

/-!
# Reading within bounds

Placeholders, tokens and settings are read by positions: a shape is matched and the texts of its
groups are taken by their numbers, or a character is searched for and the text is cut at the byte
where it stands.
-/

namespace Infill

variable [Pattern.Limit]

/-- Reads the shape from the start of a text to its end. -/
def Shape.matchWhole? (s : Shape) (t : Text) : Option Reading :=
  s.read (fun rest => if rest = [] then some { rest } else none) t

/-- The text of the first group of a shape that a whole text has. -/
def Shape.firstGroup? (s : Shape) (t : Text) : Except Breach (Option Text) :=
  match s.matchWhole? t with
  | none => .ok none
  | some r => (r.index 1).map some

namespace Argument

/-- The shape of a token that is `name`, white space, and an argument in parentheses. -/
def shape (name : Text) : Shape :=
  .inOrder [.word name, .blanks, .word ['('], .blanks, .optional (.one isQuote),
    .group 1 (.inOrder [.one (Shape.outside ['\n']), .few (Shape.outside ['\n'])]),
    .optional (.one isQuote), .blanks, .word [')']]

end Argument

namespace ParsedModifier

/-- The shape of a token that is `indent` and at least one digit. -/
def widthShape : Shape :=
  .inOrder [.word "indent".toList,
    .group 1 (.inOrder [.one Unicode.decimalDigits.has, .many Unicode.decimalDigits.has])]

/-- Reads one token. -/
def ofTokenWithin (token : Text) : Except Breach ParsedModifier := do
  if token = "base64".toList then return .recognized .base64
  match ← (Argument.shape "select".toList).firstGroup? token with
  | some pattern =>
    match Pattern.compile (Pattern.anchored pattern) with
    | .ok _ => return .recognized (.select pattern)
    | .error fault => return .ignored token (.invalidPattern fault)
  | none =>
    match ← (Argument.shape "dict".toList).firstGroup? token with
    | some key => return .recognized (.dict key)
    | none =>
      match ← (Argument.shape "default".toList).firstGroup? token with
      | some value => return .recognized (.default value)
      | none =>
        match ← widthShape.firstGroup? token with
        | some digits => return ofWidth token digits
        | none =>
          if names.any (Text.startsWith token) then return .ignored token .malformed
          else return .ignored token .unknown

end ParsedModifier

namespace Chain

/-- Reads a chain. -/
def parseWithin (raw : Text) : Except Breach Chain := do
  let tokens := ((pieces '|' raw).map Text.trim).filter (· != [])
  return { parsed := ← tokens.mapM ParsedModifier.ofTokenWithin }

end Chain

namespace Dialect

/-- What the groups of a placeholder name. -/
def targetWithin : Dialect → Reading → Except Breach Target
  | .secret, r => do return .secret (← r.index 1) (← r.index 2)
  | .reference, r => do return .setting (← r.index 1)

/-- The placeholder that a text starts with. -/
def opensWithin? (d : Dialect) (t : Text) : Except Breach (Option Placeholder) :=
  match d.shape.match? t with
  | none => .ok none
  | some r => do
    let target ← d.targetWithin r
    return some { target, modifiers := d.modifiers r, text := t.upTo r.rest }

/-- The placeholders in a text that starts at a byte of its line.  `skip` characters belong to a
placeholder that has been found. -/
def findFrom (d : Dialect) : (skip start : Nat) → Text → Except Breach (List Occurrence)
  | _, _, [] => .ok []
  | skip + 1, start, c :: rest => findFrom d skip (start + (Utf8.encodeChar c).length) rest
  | 0, start, c :: rest => do
    let next := start + (Utf8.encodeChar c).length
    match ← d.opensWithin? (c :: rest) with
    | none => findFrom d 0 next rest
    | some p =>
      let more ← findFrom d (p.text.length - 1) next rest
      return { placeholder := p, start, stop := start + Utf8.size p.text } :: more

/-- The placeholders of the dialect in a line. -/
def findWithin (d : Dialect) (line : Text) : Except Breach (List Occurrence) := findFrom d 0 0 line

end Dialect

namespace Settings

/-- The text up to the closing quote, for a text that begins with the given quote character. -/
def unquoteWithin? (quote : Char) : Text → Except Breach (Option Text)
  | [] => .ok none
  | c :: rest =>
    if c = quote then
      match Utf8.find? (· == quote) rest with
      | none => .ok none
      | some stop => (Utf8.part rest 0 stop).map some
    else .ok none

/-- The value that stands behind a delimiter, with the white space at its ends already gone. -/
def valueWithin (raw : Text) : Except Breach Text := do
  match (← unquoteWithin? '"' raw).or
      ((← unquoteWithin? '\'' raw).or (← unquoteWithin? '`' raw)) with
  | some quoted => return quoted
  | none =>
    match Utf8.find? isCommentMark raw with
    | some stop => return Text.trimEnd (← Utf8.part raw 0 stop)
    | none => return raw

/-- Reads a line. -/
def readLineWithin (raw : Text) : Except Breach SettingsLine :=
  let line := Text.trim raw
  match line with
  | [] => .ok .skipped
  | c :: _ =>
    if isCommentMark c then .ok .skipped
    else if c == '[' && line.getLast? == some ']' then .ok .header
    else
      match Utf8.find? isDelimiter line with
      | none => .ok (.faulty .noDelimiter)
      | some stop => do
        let key := Text.trim (← Utf8.part line 0 stop)
        if key = [] then return .faulty .emptyKey
        let after ← Utf8.part line (stop + 1) (Utf8.size line)
        return .entry key (← valueWithin (Text.trim after))

/-- Reads lines from number `n` on; `visible` tells whether no header has come yet. -/
def readLinesWithin (n : Nat) (visible : Bool) :
    List Text → Except Breach (Except SettingsFault (List (Text × Text)))
  | [] => .ok (.ok [])
  | raw :: rest => do
    match ← readLineWithin raw with
    | .skipped => readLinesWithin (n + 1) visible rest
    | .header => readLinesWithin (n + 1) false rest
    | .faulty fault => return .error { line := n, fault }
    | .entry key value =>
      match ← readLinesWithin (n + 1) visible rest with
      | .error fault => return .error fault
      | .ok entries => return .ok (if visible then (key, value) :: entries else entries)

/-- Reads the content of a file. -/
def parseWithin (content : Text) : Except Breach (Except SettingsFault Settings) := do
  match ← readLinesWithin 1 true (Text.lines content) with
  | .ok entries => return .ok { entries }
  | .error fault => return .error fault

/-- Reads the settings in a file. -/
def loadWithin (disk : Disk) (path : Path) : Except Breach (Except Failure Settings) :=
  match unusable? disk path with
  | some reason => .ok (.error (.sourceUnreadable path reason))
  | none =>
    match disk.read path with
    | .error reason => .ok (.error (.sourceUnreadable path reason))
    | .ok content => do
      match ← parseWithin content with
      | .ok settings => return .ok settings
      | .error fault => return .error (.sourceUnreadable path fault.message)

end Settings

end Infill
