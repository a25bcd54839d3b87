import Infill.Unicode.Category
import Infill.Unicode.Composition
import Infill.Unicode.Direction
import Infill.Unicode.DomainTable
import Infill.Unicode.Joining
import Infill.Url.Punycode

/-!
# Labels

A domain consists of labels with dots between them.  A label that is not ASCII has an ASCII form:
`xn--` and its Punycode.
-/

namespace Infill.Url.Label

/-- Whether a character is ASCII. -/
def isAscii (c : Char) : Bool := c.toNat ≤ 0x7F

/-- Whether a character cannot stand in a domain, whatever it has come from. -/
def isForbidden (c : Char) : Bool :=
  c.toNat ≤ 0x20 || c.toNat == 0x7F || c == '%' || c == '#' || c == '/' || c == ':' || c == '<' ||
    c == '>' || c == '?' || c == '@' || c == '[' || c == '\\' || c == ']' || c == '^' || c == '|'

/-- Marks, which cannot begin a label. -/
def marks : Unicode.CharSet := Unicode.categorySet "M"

/-- The character that keeps its neighbours apart. -/
def nonJoiner : Char := '\u200C'

/-- The character that joins its neighbours. -/
def joiner : Char := '\u200D'

/-- The class of the marks that take away a vowel. -/
def viramaClass : Nat := 9

/-- Whether a joiner or non-joiner fits between its neighbours; those before it are given last one
first. -/
def fits (before : Text) (c : Char) (behind : Text) : Bool :=
  before.head?.any (Unicode.combiningClass · == viramaClass) ||
    (c == nonJoiner &&
      (before.dropWhile Unicode.isTransparent).head?.any Unicode.joinsBehind &&
      (behind.dropWhile Unicode.isTransparent).head?.any Unicode.joinsBefore)

/-- Whether all joiners and non-joiners fit. -/
def joinersFit (before : Text) : Text → Bool
  | [] => true
  | c :: rest =>
    (if c == joiner || c == nonJoiner then fits before c rest else true) &&
      joinersFit (c :: before) rest

/-- Whether a label is well formed by itself. -/
def isWellFormed (label : Text) : Bool :=
  !label.any isForbidden && !label.head?.any marks.has && joinersFit [] label

/-- Whether a character makes the direction of its domain matter. -/
def isRightToLeft (c : Char) : Bool :=
  match Unicode.direction c with
  | .rightToLeft | .arabicLetter | .arabicNumber => true
  | _ => false

/-- Whether a character goes together with either direction. -/
def goesEitherWay (d : Unicode.Direction) : Bool :=
  match d with
  | .europeanNumber | .numberSign | .numberSeparator | .numberTerminator | .mark | .neutral
  | .boundary => true
  | _ => false

/-- Whether a label keeps to one direction: that of its first character, which its last one but for
marks has to have too, unless that is a number.  A label from right to left has one kind of
numbers. -/
def keepsDirection (label : Text) : Bool :=
  let directions := label.map Unicode.direction
  let last := (dropEndWhile (· == .mark) directions).getLast?
  match directions.head? with
  | none => true
  | some .leftToRight =>
    (directions.all fun d => d == .leftToRight || goesEitherWay d) &&
      last.any fun d => d == .leftToRight || d == .europeanNumber
  | some .rightToLeft | some .arabicLetter =>
    (directions.all fun d =>
        d == .rightToLeft || d == .arabicLetter || d == .arabicNumber || goesEitherWay d) &&
      (last.any fun d =>
        d == .rightToLeft || d == .arabicLetter || d == .arabicNumber || d == .europeanNumber) &&
      !(directions.contains .europeanNumber && directions.contains .arabicNumber)
  | some _ => false

/-- What the ASCII form of a label begins with, unless the label is ASCII itself. -/
def mark : Text := "xn--".toList

/-- The ASCII form of a label. -/
def toAscii (label : Text) : Text :=
  if label.all isAscii then label else mark ++ Punycode.encode label

/-- Whether a text could have come out of the replacement of characters, is no ASCII form and is one
label. -/
def isSettled (label : Text) : Bool :=
  label.all (fun c => Unicode.domainText? c == some [c] && c != '.') &&
    Unicode.composed label == label && !label.all isAscii && !Text.startsWith label mark

/-- Reads a label, which may be given in its ASCII form. -/
def read? (t : Text) : Option Text :=
  match afterLead? mark t with
  | none => some t
  | some code =>
    if code.all isAscii then (Punycode.decode? code).filter isSettled else none

end Infill.Url.Label
