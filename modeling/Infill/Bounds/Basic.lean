import Infill.Breach
import Infill.Shape
import Infill.Text.Utf8

/-!
# Positions

Texts are cut at bytes and the groups of a shape are taken by their numbers, and either can be out of
bounds.
-/

namespace Infill

namespace Utf8

/-- The parts of a text in front of a byte and behind it, unless the byte is in the middle of a
character or beyond the end. -/
def splitAt? : Nat → Text → Option (Text × Text)
  | 0, t => some ([], t)
  | _ + 1, [] => none
  | n + 1, c :: rest =>
    if (encodeChar c).length ≤ n + 1 then
      (splitAt? (n + 1 - (encodeChar c).length) rest).map fun parts => (c :: parts.1, parts.2)
    else none

/-- The part of a text from the byte `start` up to the byte `stop`. -/
def part (t : Text) (start stop : Nat) : Except Breach Text :=
  match (splitAt? stop t).bind fun parts => splitAt? start parts.1 with
  | some parts => .ok parts.2
  | none => .error (.cut start stop)

/-- The byte at which the first accepted character of a text starts. -/
def find? (accepts : Char → Bool) : Text → Option Nat
  | [] => none
  | c :: rest =>
    if accepts c then some 0 else (find? accepts rest).map (· + (encodeChar c).length)

end Utf8

/-- The text of a group that has to be there. -/
def Reading.index (r : Reading) (number : Nat) : Except Breach Text :=
  match r.group? number with
  | some t => .ok t
  | none => .error (.group number)

end Infill
