import Infill.Text.Basic

/-!
# Shapes

A shape says what a piece of text looks like.  It is a regular expression with groups, and it has an
order of preference among the ways to read a text: `many` prefers to go on, `few` prefers to stop,
and an optional part prefers to be there.

`Shape.read` takes the first way that lets the rest of the text be read, going back to the next way
whenever it does not.
-/

namespace Infill

/-- The shape of a piece of text. -/
inductive Shape
  | nothing
  /-- One character. -/
  | one (accepts : Char → Bool)
  /-- Any number of characters, as many as possible. -/
  | many (accepts : Char → Bool)
  /-- Any number of characters, as few as possible. -/
  | few (accepts : Char → Bool)
  | seq (first second : Shape)
  /-- A part that can be left out. -/
  | optional (body : Shape)
  /-- A part whose text is kept under a number. -/
  | group (number : Nat) (body : Shape)

/-- What is left of a text behind a shape, and the texts of the groups in the shape. -/
structure Reading where
  rest : Text
  groups : List (Nat × Text) := []
deriving DecidableEq, Repr

namespace Reading

/-- The text of a group, if the group has been read. -/
def group? (r : Reading) (number : Nat) : Option Text := r.groups.lookup number

/-- The text of a group, empty if the group has not been read. -/
def group (r : Reading) (number : Nat) : Text := (r.group? number).getD []

/-- The reading with one more group. -/
def keep (number : Nat) (text : Text) (r : Reading) : Reading :=
  { r with groups := (number, text) :: r.groups }

end Reading

/-- The part of a text in front of a rest of it. -/
def Text.upTo (t rest : Text) : Text := t.take (t.length - rest.length)

namespace Shape

/-- Goes on to `next` behind as many accepted characters as possible. -/
def readMany (accepts : Char → Bool) (next : Text → Option Reading) : Text → Option Reading
  | [] => next []
  | c :: rest =>
    if accepts c then (readMany accepts next rest).or (next (c :: rest)) else next (c :: rest)

/-- Goes on to `next` behind as few accepted characters as possible. -/
def readFew (accepts : Char → Bool) (next : Text → Option Reading) : Text → Option Reading
  | [] => next []
  | c :: rest =>
    (next (c :: rest)).or (if accepts c then readFew accepts next rest else none)

/-- Reads the shape at the start of a text, and the rest by `next`. -/
def read : Shape → (next : Text → Option Reading) → Text → Option Reading
  | .nothing, next, t => next t
  | .one _, _, [] => none
  | .one accepts, next, c :: rest => if accepts c then next rest else none
  | .many accepts, next, t => readMany accepts next t
  | .few accepts, next, t => readFew accepts next t
  | .seq first second, next, t => first.read (second.read next) t
  | .optional body, next, t => (body.read next t).or (next t)
  | .group number body, next, t =>
    body.read (fun rest => (next rest).map (Reading.keep number (t.upTo rest))) t

/-- Reads the shape at the start of a text. -/
def match? (s : Shape) (t : Text) : Option Reading := s.read (fun rest => some { rest }) t

/-- Shapes one after the other. -/
def inOrder (shapes : List Shape) : Shape := shapes.foldr .seq .nothing

/-- The given characters. -/
def word (t : Text) : Shape := inOrder (t.map fun c => .one (· == c))

/-- Any white space. -/
def blanks : Shape := .many Text.isBlank

/-- Whether a character is none of the given ones. -/
def outside (stops : Text) (c : Char) : Bool := !stops.contains c

/-- A part that is kept under a number: a text without white space in front and without certain
characters, as short as possible. -/
def name (number : Nat) (stops : Text) : Shape :=
  .group number
    (inOrder [.one fun c => outside stops c && !Text.isBlank c, .few (outside stops)])

end Shape

end Infill
