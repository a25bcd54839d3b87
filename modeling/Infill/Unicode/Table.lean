import Infill.Unicode.CharSet

/-!
# Reading tables

Properties of code points are written down as rows of short entries.  This module reads such rows.
-/

namespace Infill.Unicode

/-- Neighbouring code points of which the table says the same. -/
structure Run where
  name : Text
  first : Nat
  last : Nat

/-- The entries of a table: the parts of its rows between blanks. -/
def entriesOf (rows : List String) : List Text :=
  rows.flatMap fun row => pieces ' ' row.toList

/-- Reads entries of a name of `width` letters and a hexadecimal count: the runs that follow one
another from code point zero on. -/
def runsOf (width : Nat) (rows : List String) : List Run :=
  ((entriesOf rows).foldl (fun (next, runs) entry =>
    let count := (Text.natOfDigits? 16 (entry.drop width)).getD 0
    (next + count, { name := entry.take width, first := next, last := next + count - 1 } :: runs))
    (0, ([] : List Run))).2.reverse

/-- Reads entries of a name of four letters and a hexadecimal code point or range of code
points. -/
def sharedOf (rows : List String) : List Run :=
  (entriesOf rows).map fun entry =>
    let ends := (pieces '-' (entry.drop 4)).map fun t => (Text.natOfDigits? 16 t).getD 0
    { name := entry.take 4, first := ends.headD 0, last := ends.getLastD 0 }

/-- Reads hexadecimal numbers that say by turns how many code points to skip and how many to
take. -/
def rangesOf (rows : List String) : CharSet :=
  let counts := (entriesOf rows).map fun entry => (Text.natOfDigits? 16 entry).getD 0
  CharSet.ofRanges ((counts.foldl (fun (next, takes, ranges) count =>
    (next + count, !takes, if takes then (next, next + count - 1) :: ranges else ranges))
    (0, false, ([] : List (Nat × Nat)))).2.2.reverse)

/-- A name without blanks, hyphens and low lines, in lower case. -/
def loosen (name : String) : String :=
  String.ofList ((name.toList.filter fun c => c != ' ' && c != '-' && c != '_').map Text.lowerAscii)

end Infill.Unicode
