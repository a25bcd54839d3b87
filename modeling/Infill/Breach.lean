import Infill.Text.Basic

/-!
# Steps out of bounds

Some steps have a result within bounds only.  A text can be cut at a byte where a character starts or
the text ends, a group of a shape has a text if it has been read, and a row of spaces has to fit into
the memory that can be addressed.  A step out of bounds breaks off all that it is a part of, and what
has been broken off has no failure that could be reported.
-/

namespace Infill

/-- A step out of bounds. -/
inductive Breach
  /-- A range of bytes that is no part of a text. -/
  | cut (start stop : Nat)
  /-- A group that has not been read. -/
  | group (number : Nat)
  /-- More spaces than memory can be addressed for. -/
  | spaces (count : Nat)
deriving DecidableEq, Repr

/-- Why something has come to no value: it has failed, or it has been broken off. -/
inductive Stop (ε : Type)
  | failure (f : ε)
  | breach (b : Breach)
deriving DecidableEq, Repr

/-- The stop of a whole that the stop of a part is the cause of. -/
def Stop.map {ε ε' : Type} (g : ε → ε') : Stop ε → Stop ε'
  | failure f => failure (g f)
  | breach b => breach b

/-- The most bytes that memory can be addressed for in one piece. -/
def Text.longest : Nat := Nat.pow 2 63 - 1

end Infill
