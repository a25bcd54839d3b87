import Infill.Pattern.Parser

/-!
# Searching for a pattern

The positions of a text are numbered from zero, before its first character, to its length.  A set
of positions is a natural number whose bit `i` says whether position `i` belongs to it.  A pattern
turns the set of positions where a match may begin into the set of positions where it may end,
piece by piece, so that searching never goes back.

Before the search every set of characters and every assertion of the pattern is replaced by the
positions of the text where it holds.
-/

namespace Infill

/-- A pattern laid over a text: each character set has become the positions in front of its
members, and each assertion the positions where it holds. -/
inductive Walk
  | stay (positions : Nat)
  | step (positions : Nat)
  | seq (first second : Walk)
  | alt (first second : Walk)
  | repeat (least : Nat) (most : Option Nat) (body : Walk)

namespace Walk

/-- Numbers the elements for which the answer is yes, as the bits of a number. -/
def marks (answers : List Bool) : Nat := answers.foldr (fun b n => 2 * n + b.toNat) 0

/-- Applies `f` the given number of times. -/
def times (f : Nat → Nat) : Nat → Nat → Nat
  | 0, positions => positions
  | n + 1, positions => times f n (f positions)

/-- The positions reached from `seen` by up to the given number of applications of `f`, where
`fresh` are the positions that the last application has added. -/
def closure (f : Nat → Nat) : (rounds : Nat) → (fresh seen : Nat) → Nat
  | 0, _, seen => seen
  | n + 1, fresh, seen =>
    if fresh = 0 then seen
    else
      let next := f fresh
      let new := next ^^^ (next &&& seen)
      closure f n new (seen ||| new)

/-- Where a match may end that begins at one of the given positions, in a text of `length`
characters. -/
def ends (length : Nat) : Walk → Nat → Nat
  | .stay here, positions => positions &&& here
  | .step here, positions => (positions &&& here) <<< 1
  | .seq a b, positions => ends length b (ends length a positions)
  | .alt a b, positions => ends length a positions ||| ends length b positions
  | .repeat least most body, positions =>
    let begun := times (ends length body) least positions
    let rounds :=
      match most with
      | none => length + 1
      | some most => min (most - least) (length + 1)
    closure (ends length body) rounds begun begun

end Walk

namespace Pattern

/-- The answers of a question about the neighbours of each position of a text. -/
def atPositions (holds : Option Char → Option Char → Bool) (t : Text) : List Bool :=
  List.zipWith holds (none :: t.map some) (t.map some ++ [none])

/-- Lays a pattern over a text. -/
def walk (t : Text) : Pattern → Walk
  | .empty => .stay (Nat.pow 2 (t.length + 1) - 1)
  | .set s => .step (Walk.marks (t.map s.has))
  | .look l => .stay (Walk.marks (atPositions (fun before after => l.holds before after) t))
  | .seq a b => .seq (a.walk t) (b.walk t)
  | .alt a b => .alt (a.walk t) (b.walk t)
  | .repeat least most body => .repeat least most (body.walk t)

/-- Whether the pattern matches somewhere in a text. -/
def occursIn (p : Pattern) (t : Text) : Bool :=
  (p.walk t).ends t.length (Nat.pow 2 (t.length + 1) - 1) != 0

/-- The text of a pattern made to match from the start of a text to its end. -/
def anchored (source : Text) : Text := "^(?:".toList ++ source ++ ")$".toList

end Pattern

end Infill
