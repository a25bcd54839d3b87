import Infill.Text.Basic

/-!
# Settings

The key-value file that `ref` placeholders are looked up in.  A line is blank, a comment behind
`#` or `;`, the header of a section in square brackets, or an entry: a key, then `=` or `:`, then
a value.  A value in quotes reaches to the closing quote; any other value ends before the first
`#` or `;`.  Only entries before the first header count, but every entry has to be well formed.
Of several entries with one key the last counts.
-/

namespace Infill

/-- What is wrong with a line of the file. -/
inductive LineFault
  | noDelimiter
  | emptyKey
deriving DecidableEq, Repr

/-- The number of a faulty line, counted from one, and its fault. -/
structure SettingsFault where
  line : Nat
  fault : LineFault
deriving DecidableEq, Repr

/-- The wording of a fault. -/
def SettingsFault.message (f : SettingsFault) : Text :=
  "line ".toList ++ Text.decimal f.line ++
    match f.fault with
    | .noDelimiter => ": key-value delimiter not found".toList
    | .emptyKey => ": empty key".toList

/-- A line of the file. -/
inductive SettingsLine
  | skipped
  | header
  | entry (key value : Text)
  | faulty (fault : LineFault)
deriving DecidableEq, Repr

/-- The settings of a file: its visible entries in the order of the file. -/
structure Settings where
  entries : List (Text × Text)
deriving DecidableEq, Repr

namespace Settings

/-- The characters that begin a comment. -/
def isCommentMark (c : Char) : Bool := c == '#' || c == ';'

/-- The characters between a key and its value. -/
def isDelimiter (c : Char) : Bool := c == '=' || c == ':'

/-- The text up to the closing quote, for a text that begins with the given quote character. -/
def unquote? (quote : Char) : Text → Option Text
  | [] => none
  | c :: rest => if c = quote then (cutAt? (· == quote) rest).map (·.1) else none

/-- The value that stands behind a delimiter, with the white space at its ends already gone. -/
def valueOf (raw : Text) : Text :=
  match (unquote? '"' raw).or ((unquote? '\'' raw).or (unquote? '`' raw)) with
  | some quoted => quoted
  | none =>
    match cutAt? isCommentMark raw with
    | some (before, _) => Text.trimEnd before
    | none => raw

/-- Reads a line. -/
def readLine (raw : Text) : SettingsLine :=
  let line := Text.trim raw
  match line with
  | [] => .skipped
  | c :: _ =>
    if isCommentMark c then .skipped
    else if c == '[' && line.getLast? == some ']' then .header
    else
      match cutAt? isDelimiter line with
      | none => .faulty .noDelimiter
      | some (before, after) =>
        let key := Text.trim before
        if key = [] then .faulty .emptyKey else .entry key (valueOf (Text.trim after))

/-- Reads lines from number `n` on; `visible` tells whether no header has come yet. -/
def readLines (n : Nat) (visible : Bool) : List Text → Except SettingsFault (List (Text × Text))
  | [] => .ok []
  | raw :: rest =>
    match readLine raw with
    | .skipped => readLines (n + 1) visible rest
    | .header => readLines (n + 1) false rest
    | .faulty fault => .error { line := n, fault }
    | .entry key value =>
      match readLines (n + 1) visible rest with
      | .error fault => .error fault
      | .ok entries => .ok (if visible then (key, value) :: entries else entries)

/-- Reads the content of a file. -/
def parse (content : Text) : Except SettingsFault Settings :=
  match readLines 1 true (Text.lines content) with
  | .ok entries => .ok { entries }
  | .error fault => .error fault

/-- The value of a key: that of the last entry with the key. -/
def get? (s : Settings) (key : Text) : Option Text :=
  (s.entries.reverse.find? fun entry => entry.1 == key).map (·.2)

end Settings

end Infill
