import Infill.Unicode.Property

/-!
# Quoted text

A text in double quotes as messages show it.  Quotes and backslashes get a backslash, and a
character that would not print, or would combine with the one before it, is written as an escape.
-/

namespace Infill.Text

/-- The characters that do not print: controls, format characters, surrogates, private use,
unassigned code points and separators other than the space. -/
def unprintable : Unicode.CharSet :=
  (((Unicode.categorySet "C").union (Unicode.categorySet "Z")).minus [(0x20, 0x20)])

/-- How a character is written between quotes. -/
def escape (c : Char) : Text :=
  match c with
  | '"' => ['\\', '"']
  | '\\' => ['\\', '\\']
  | '\n' => ['\\', 'n']
  | '\r' => ['\\', 'r']
  | '\t' => ['\\', 't']
  | '\x00' => ['\\', '0']
  | _ =>
    if 0x20 ≤ c.toNat && c.toNat < 0x7F then [c]
    else if Unicode.graphemeExtend.has c || unprintable.has c then
      ['\\', 'u', '{'] ++ numeral 16 c.toNat ++ ['}']
    else [c]

/-- The text between double quotes. -/
def quoted (t : Text) : Text := '"' :: t.flatMap escape ++ ['"']

end Infill.Text
