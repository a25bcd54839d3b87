import Infill.Action
import Infill.Run

/-!
# The terminal

Messages to the user and warnings as they are written to the terminal, with escape sequences for
colours.
-/

namespace Infill.Terminal

/-- An escape sequence that sets attributes. -/
def escapeSequence (codes : String) : Text := '\x1B' :: '[' :: codes.toList ++ ['m']

/-- A text between two settings of attributes. -/
def painted (on off : String) (t : Text) : Text := escapeSequence on ++ t ++ escapeSequence off

/-- A bold mark in a colour. -/
def mark (colour : String) (symbol : Char) : Text :=
  painted "1" "0" (painted colour "39" [symbol])

/-- The lines of a message. -/
def noticeText : Notice → Text
  | .error t => mark "38;2;255;160;160" '✗' ++ ' ' :: painted "97" "39" t ++ ['\n']
  | .warning t => mark "38;2;255;230;160" '⚠' ++ ' ' :: painted "97" "39" t ++ ['\n']
  | .remark t => painted "38;2;160;160;160" "39" t ++ ['\n']

/-- The warning about a line that holds both kinds of placeholder. -/
def mixedWarning : Text :=
  "line mixes secret and ref placeholders, ref placeholders are left as-is".toList

/-- The line of a warning given at an instant. -/
def warningText (now : Instant) (line : Text) : Text :=
  painted "2" "0" now.microseconds ++ ' ' :: painted "33" "0" " WARN".toList ++ ' ' ::
    mixedWarning ++ ' ' :: painted "3" "0" "line".toList ++ painted "2" "0" ['='] ++ line ++
    ['\n']

/-- The lines of the warnings among events. -/
def warningsText (now : Instant) (events : List Event) : Text :=
  events.flatMap fun e =>
    match e with
    | .warning line => warningText now line
    | .request _ => []

end Infill.Terminal
