import Infill.Text.Basic

/-!
# Sets of characters

A set of code points is a list of ranges in ascending order that neither overlap nor touch.  The
operations keep this form, so two equal sets have the same ranges.
-/

namespace Infill.Unicode

/-- A set of code points, as ascending ranges with a gap between neighbours; both ends of a range
belong to it. -/
abbrev CharSet := List (Nat × Nat)

namespace CharSet

/-- The number of the last code point. -/
def lastCode : Nat := 0x10FFFF

/-- All code points. -/
def full : CharSet := [(0, lastCode)]

/-- Whether a code point, given by its number, belongs to the set. -/
def hasCode (s : CharSet) (n : Nat) : Bool := s.any fun r => r.1 ≤ n && n ≤ r.2

/-- Whether a character belongs to the set. -/
def has (s : CharSet) (c : Char) : Bool := s.hasCode c.toNat

/-- The set with the range from `lo` to `hi` added. -/
def insert (lo hi : Nat) : CharSet → CharSet
  | [] => [(lo, hi)]
  | r :: rest =>
    if hi + 1 < r.1 then (lo, hi) :: r :: rest
    else if r.2 + 1 < lo then r :: insert lo hi rest
    else insert (min lo r.1) (max hi r.2) rest

/-- The set of the code points in any of the given ranges. -/
def ofRanges (ranges : List (Nat × Nat)) : CharSet :=
  ranges.foldr (fun r s => if r.1 ≤ r.2 then insert r.1 r.2 s else s) []

/-- The set of one character. -/
def single (c : Char) : CharSet := [(c.toNat, c.toNat)]

/-- The code points in one of two sets, or both. -/
def union (a b : CharSet) : CharSet := a.foldr (fun r s => insert r.1 r.2 s) b

/-- The code points from `start` on that are not in the set. -/
def complementFrom (start : Nat) : CharSet → CharSet
  | [] => if start ≤ lastCode then [(start, lastCode)] else []
  | r :: rest =>
    if start < r.1 then (start, r.1 - 1) :: complementFrom (r.2 + 1) rest
    else complementFrom (r.2 + 1) rest

/-- The code points that are not in the set. -/
def complement (s : CharSet) : CharSet := complementFrom 0 s

/-- The code points in both of two sets. -/
def inter (a b : CharSet) : CharSet := (a.complement.union b.complement).complement

/-- The code points in the first set only. -/
def minus (a b : CharSet) : CharSet := (a.complement.union b).complement

/-- The code points in exactly one of two sets. -/
def exclusive (a b : CharSet) : CharSet := (a.minus b).union (b.minus a)

end CharSet

end Infill.Unicode
