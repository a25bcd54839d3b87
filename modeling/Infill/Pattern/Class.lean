import Infill.Pattern.Basic
import Infill.Pattern.Fault
import Infill.Unicode.Script
import Infill.Unicode.CaseFold
import Infill.Unicode.Age
import Infill.Unicode.Break

/-!
# Sets of characters in patterns

The flags that a part of a pattern is read under, and the sets of characters that single
characters, escapes such as `\w`, names such as `alpha` and Unicode properties stand for.
-/

namespace Infill.Pattern

open Infill.Unicode (CharSet)

/-- The flags that are in force at a place in a pattern. -/
structure Flags where
  ignoreCase : Bool := false
  multiLine : Bool := false
  dotAll : Bool := false
  swapGreed : Bool := false
  unicode : Bool := true
  returns : Bool := false
  ignoreBlank : Bool := false
deriving DecidableEq, Repr

/-- Turns a flag on or off by its letter. -/
def Flags.set? (flags : Flags) (letter : Char) (on : Bool) : Option Flags :=
  match letter with
  | 'i' => some { flags with ignoreCase := on }
  | 'm' => some { flags with multiLine := on }
  | 's' => some { flags with dotAll := on }
  | 'U' => some { flags with swapGreed := on }
  | 'u' => some { flags with unicode := on }
  | 'R' => some { flags with returns := on }
  | 'x' => some { flags with ignoreBlank := on }
  | _ => none

/-- The ASCII letters of a set in both cases. -/
def foldAscii (s : CharSet) : CharSet :=
  let letters := (List.range 26).filter fun i => s.hasCode (0x41 + i) || s.hasCode (0x61 + i)
  s.union (CharSet.ofRanges (letters.flatMap fun i =>
    [(0x41 + i, 0x41 + i), (0x61 + i, 0x61 + i)]))

namespace Flags

/-- The set closed under case, if case is to be ignored. -/
def fold (flags : Flags) (s : CharSet) : CharSet :=
  if flags.ignoreCase then
    if flags.unicode then s.foldCase else foldAscii s
  else s

/-- The complement of a set, if asked for.  Where single bytes are matched, the complement would
hold bytes that are no text. -/
def negate (flags : Flags) (negated : Bool) (s : CharSet) : Except Fault CharSet :=
  if !negated then .ok s
  else if flags.unicode then .ok s.complement
  else .error .notText

/-- The characters that a character stands for. -/
def literal (flags : Flags) (c : Char) : CharSet := flags.fold (CharSet.single c)

/-- The characters that `.` stands for. -/
def dot (flags : Flags) : Except Fault CharSet :=
  if !flags.unicode then .error .notText
  else if flags.dotAll then .ok CharSet.full
  else if flags.returns then .ok (CharSet.complement [(0x0A, 0x0A), (0x0D, 0x0D)])
  else .ok (CharSet.complement [(0x0A, 0x0A)])

/-- The set that `\d`, `\s` or `\w` stands for, by its lower-case letter. -/
def perlSet (flags : Flags) (letter : Char) : CharSet :=
  match letter with
  | 'd' => if flags.unicode then Unicode.decimalDigits else [(0x30, 0x39)]
  | 's' => if flags.unicode then Unicode.whiteSpace else [(0x09, 0x0D), (0x20, 0x20)]
  | _ => wordSet flags.unicode

/-- The set of a property named after `\p`: a category, a script or a yes-or-no property by its
own name, or a value after the name of what it is a value of. -/
def propertySet? (name : String) : Option CharSet :=
  if name == "cf" || name == "sc" || name == "lc" then Unicode.categoryNamed? name
  else
    ((Unicode.propertyNamed? name).orElse fun _ => Unicode.categoryNamed? name).orElse
      fun _ => Unicode.scriptNamed? name

/-- The set of the code points for which a property has a value. -/
def valueSet? (property value : String) : Option CharSet :=
  match property with
  | "gc" | "generalcategory" => Unicode.categoryNamed? value
  | "sc" | "script" => Unicode.scriptNamed? value
  | "scx" | "scriptextensions" => Unicode.scriptExtensionNamed? value
  | "age" => Unicode.ageNamed? value
  | "gcb" | "graphemeclusterbreak" => Unicode.clusterBreakNamed? value
  | "wb" | "wordbreak" => Unicode.wordBreakNamed? value
  | "sb" | "sentencebreak" => Unicode.sentenceBreakNamed? value
  | _ => none

end Flags

/-- A property name without case, separators and an initial `is`. -/
def looseName (name : Text) : String :=
  let cut :=
    match name with
    | a :: b :: rest =>
      if (a == 'i' || a == 'I') && (b == 's' || b == 'S') then
        let loose := Unicode.loosen (String.ofList rest)
        if loose == "c" then "isc" else loose
      else Unicode.loosen (String.ofList name)
    | _ => Unicode.loosen (String.ofList name)
  String.ofList (cut.toList.filter fun c => c.toNat < 0x80)

/-- The set of the bracket name of a POSIX class. -/
def posixSet? (name : Text) : Option CharSet :=
  match String.ofList name with
  | "alnum" => some [(0x30, 0x39), (0x41, 0x5A), (0x61, 0x7A)]
  | "alpha" => some [(0x41, 0x5A), (0x61, 0x7A)]
  | "ascii" => some [(0x00, 0x7F)]
  | "blank" => some [(0x09, 0x09), (0x20, 0x20)]
  | "cntrl" => some [(0x00, 0x1F), (0x7F, 0x7F)]
  | "digit" => some [(0x30, 0x39)]
  | "graph" => some [(0x21, 0x7E)]
  | "lower" => some [(0x61, 0x7A)]
  | "print" => some [(0x20, 0x7E)]
  | "punct" => some [(0x21, 0x2F), (0x3A, 0x40), (0x5B, 0x60), (0x7B, 0x7E)]
  | "space" => some [(0x09, 0x0D), (0x20, 0x20)]
  | "upper" => some [(0x41, 0x5A)]
  | "word" => some asciiWord
  | "xdigit" => some [(0x30, 0x39), (0x41, 0x46), (0x61, 0x66)]
  | _ => none

end Infill.Pattern
