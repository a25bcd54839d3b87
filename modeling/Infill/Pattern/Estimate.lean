import Infill.Pattern.Parser

/-!
# Estimates of room

A guess at how much room a pattern needs, for those who have to run patterns.  Nothing that is said of
patterns depends on it.
-/

namespace Infill.Pattern.Estimate

/-- An estimate of the bytes that a table-driven matcher needs for the pattern.  A repetition with
counts is written out, and a set beyond ASCII takes several states for each of its ranges. -/
def weight : Pattern → Nat
  | .empty => 32
  | .set s =>
    if s.all fun r => r.2 < 0x80 then 32 + 8 * s.length else 300 + 58 * s.length
  | .look _ => 32
  | .seq a b => weight a + weight b
  | .alt a b => weight a + weight b + 72
  | .repeat least most body =>
    match most with
    | none => max least 1 * weight body + 40
    | some most => least * weight body + (most - least) * (weight body + 40) + 32

/-- How many bytes a matcher may take. -/
def weightLimit : Nat := 10 * Nat.pow 2 20

/-- There is room for what is estimated to stay below the limit. -/
scoped instance limit : Limit where
  admits source :=
    match parse source with
    | .ok operand => weight operand.pattern ≤ weightLimit
    | .error _ => true

end Infill.Pattern.Estimate
