import Infill.Shape
import Infill.Text.Utf8

/-!
# Placeholders

Two dialects of placeholder stand inside a line of text:

* `${ secret:PATH@KEY | MODIFIERS }` names a field of a secret,
* `${ ref:KEY | MODIFIERS }` names a setting of the local key-value file.

White space around the names does not count, and the part from the first `|` on is optional.
A placeholder ends at the first `}` after its keyword.

`Template.ofLine` cuts a line into the placeholders of one dialect and the literal text between
them, looking for the leftmost placeholder first and going on behind its end.  Nothing of the line
is lost: `Template.text` gives it back.
-/

namespace Infill

/-- A kind of placeholder. -/
inductive Dialect
  | secret
  | reference
deriving DecidableEq, Repr

/-- What a placeholder names. -/
inductive Target
  | secret (path key : Text)
  | setting (key : Text)
deriving DecidableEq, Repr

/-- A placeholder of a line: what it names, its modifiers with the `|` in front of them, and the
whole of its text. -/
structure Placeholder where
  target : Target
  modifiers : Text
  text : Text
deriving DecidableEq, Repr

/-- The dialect a target belongs to. -/
def Target.dialect : Target → Dialect
  | .secret _ _ => .secret
  | .setting _ => .reference

namespace Dialect

/-- The word a placeholder of the dialect starts with. -/
def keyword : Dialect → Text
  | .secret => "secret:".toList
  | .reference => "ref:".toList

/-- The modifiers of a placeholder, kept under a number: everything from `|` up to the closing
brace. -/
def suffix (number : Nat) : Shape :=
  .optional (.group number (.inOrder [.word ['|'], .many (Shape.outside ['}'])]))

/-- The shape of what stands between the keyword and the closing brace. -/
def body : Dialect → Shape
  | .secret =>
    .inOrder [.blanks, .name 1 ['@', '}', '|'], .blanks, .word ['@'], .blanks, .name 2 ['}', '|'],
      .blanks, suffix 3]
  | .reference => .inOrder [.blanks, .name 1 ['}', '|'], .blanks, suffix 2]

/-- The shape of a placeholder. -/
def shape (d : Dialect) : Shape :=
  .inOrder [.word ['$', '{'], .blanks, .word d.keyword, d.body, .word ['}']]

/-- What the groups of a placeholder name. -/
def target (d : Dialect) (r : Reading) : Target :=
  match d with
  | .secret => .secret (r.group 1) (r.group 2)
  | .reference => .setting (r.group 1)

/-- The modifiers among the groups of a placeholder. -/
def modifiers (d : Dialect) (r : Reading) : Text :=
  match d with
  | .secret => r.group 3
  | .reference => r.group 2

/-- The placeholder that a text starts with. -/
def opens? (d : Dialect) (t : Text) : Option Placeholder :=
  (d.shape.match? t).map fun r =>
    { target := d.target r, modifiers := d.modifiers r, text := t.upTo r.rest }

/-- Whether a line holds a placeholder of the dialect. -/
def occursIn (d : Dialect) : Text → Bool
  | [] => (d.opens? []).isSome
  | c :: rest => (d.opens? (c :: rest)).isSome || d.occursIn rest

end Dialect

/-- A line cut into placeholders, each with the literal text in front of it, and the literal text
behind the last one. -/
structure Template where
  holes : List (Text × Placeholder)
  tail : Text
deriving DecidableEq, Repr

/-- A placeholder and the range of bytes it takes in its line. -/
structure Occurrence where
  placeholder : Placeholder
  start : Nat
  stop : Nat
deriving DecidableEq, Repr

namespace Template

/-- Reads a line on.  `skip` characters belong to a placeholder that has been recorded, and `seen`
holds the literal text since then, last character first. -/
def scan (d : Dialect) : (skip : Nat) → (seen : Text) → Text → Template
  | _, seen, [] => { holes := [], tail := seen.reverse }
  | skip + 1, seen, _ :: rest => scan d skip seen rest
  | 0, seen, c :: rest =>
    match d.opens? (c :: rest) with
    | none => scan d 0 (c :: seen) rest
    | some p =>
      let more := scan d (p.text.length - 1) [] rest
      { more with holes := (seen.reverse, p) :: more.holes }

/-- Cuts a line into the placeholders of a dialect and the text between them. -/
def ofLine (d : Dialect) (line : Text) : Template := scan d 0 [] line

/-- The line that has been cut. -/
def text (t : Template) : Text :=
  (t.holes.flatMap fun hole => hole.1 ++ hole.2.text) ++ t.tail

/-- The placeholders in order. -/
def placeholders (t : Template) : List Placeholder := t.holes.map (·.2)

/-- The placeholders in order with the bytes they take, when the line starts at byte `start`. -/
def occurrencesFrom (start : Nat) : List (Text × Placeholder) → List Occurrence
  | [] => []
  | (before, p) :: rest =>
    let first := start + Utf8.size before
    let stop := first + Utf8.size p.text
    { placeholder := p, start := first, stop } :: occurrencesFrom stop rest

/-- The placeholders in order with the bytes they take. -/
def occurrences (t : Template) : List Occurrence := occurrencesFrom 0 t.holes

/-- The line with a text in the place of each placeholder. -/
def fill : List (Text × Text) → Text → Text
  | [], tail => tail
  | (before, value) :: rest, tail => before ++ value ++ fill rest tail

end Template

/-- The placeholders of the dialect in a line. -/
def Dialect.find (d : Dialect) (line : Text) : List Occurrence :=
  (Template.ofLine d line).occurrences

/-- Whether a line is a comment: white space and then `#`. -/
def isComment (line : Text) : Bool := Text.startsWith (Text.trimStart line) ['#']

end Infill
