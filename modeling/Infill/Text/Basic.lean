/-!
# Text

Text is a list of characters and a stream is a list of bytes.  This module holds the
vocabulary the rest of the library is written in: white space in the sense of the
Unicode property `White_Space`, trimming, cutting a text at a separator, lines, and
decimal numerals.
-/

namespace Infill

/-- A text, as the sequence of its characters. -/
abbrev Text := List Char

/-- A stream of bytes. -/
abbrev Bytes := List UInt8

/-- The parts between the occurrences of `sep`: one more than there are occurrences. -/
def pieces {α : Type} [DecidableEq α] (sep : α) : List α → List (List α)
  | [] => [[]]
  | a :: rest =>
    if a = sep then [] :: pieces sep rest
    else
      match pieces sep rest with
      | [] => [[a]]
      | piece :: more => (a :: piece) :: more

/-- What stands before and after the first element that `stops` accepts, without that element;
`none` when there is no such element. -/
def cutAt? {α : Type} (stops : α → Bool) (l : List α) : Option (List α × List α) :=
  match l.dropWhile (fun a => !stops a) with
  | [] => none
  | _ :: after => some (l.takeWhile (fun a => !stops a), after)

/-- The rest of `l` after `lead`, when `l` starts with it. -/
def afterLead? {α : Type} [DecidableEq α] : List α → List α → Option (List α)
  | [], l => some l
  | _ :: _, [] => none
  | a :: lead, b :: l => if a = b then afterLead? lead l else none

/-- Drops the elements at the end that `gone` accepts. -/
def dropEndWhile {α : Type} (gone : α → Bool) (l : List α) : List α :=
  (l.reverse.dropWhile gone).reverse

namespace Text

/-- White space: exactly the characters with the Unicode property `White_Space`. -/
def isBlank (c : Char) : Bool :=
  let n := c.toNat
  (9 ≤ n && n ≤ 13) || n == 0x20 || n == 0x85 || n == 0xA0 || n == 0x1680 ||
    (0x2000 ≤ n && n ≤ 0x200A) || n == 0x2028 || n == 0x2029 || n == 0x202F || n == 0x205F ||
    n == 0x3000

/-- The text without the white space it starts with. -/
def trimStart (t : Text) : Text := t.dropWhile isBlank

/-- The text without the white space it ends with. -/
def trimEnd (t : Text) : Text := dropEndWhile isBlank t

/-- The text without the white space at its ends. -/
def trim (t : Text) : Text := trimEnd (trimStart t)

/-- Whether the text starts with `lead`. -/
def startsWith (t lead : Text) : Bool := (afterLead? lead t).isSome

/-- Drops one carriage return from the end. -/
def dropReturn (t : Text) : Text :=
  match t.getLast? with
  | some '\r' => t.dropLast
  | _ => t

/-- The lines of a text.  A line feed ends a line, together with one carriage return before it;
no line follows the last line feed. -/
def lines (t : Text) : List Text :=
  let parts := pieces '\n' t
  let ended := parts.dropLast.map dropReturn
  match parts.getLast? with
  | none => ended
  | some [] => ended
  | some open_ => ended ++ [open_]

/-- The texts one after the other with `between` between neighbours. -/
def join (between : Text) : List Text → Text
  | [] => []
  | [t] => t
  | t :: ts => t ++ between ++ join between ts

/-- The numeral of `n` in a base of at most sixteen, lower case. -/
def numeral (base n : Nat) : Text := Nat.toDigits base n

/-- The decimal numeral of `n`. -/
def decimal (n : Nat) : Text := numeral 10 n

/-- The decimal numeral of `n`, filled up with zeros on the left to `width` digits. -/
def decimalFilled (width n : Nat) : Text :=
  let digits := decimal n
  List.replicate (width - digits.length) '0' ++ digits

/-- The value of an ASCII digit of the given base, at most sixteen. -/
def digitValue? (base : Nat) (c : Char) : Option Nat :=
  let value :=
    if '0' ≤ c ∧ c ≤ '9' then some (c.toNat - '0'.toNat)
    else if 'a' ≤ c ∧ c ≤ 'f' then some (c.toNat - 'a'.toNat + 10)
    else if 'A' ≤ c ∧ c ≤ 'F' then some (c.toNat - 'A'.toNat + 10)
    else none
  value.filter (· < base)

/-- The number a non-empty sequence of digits of the base stands for. -/
def natOfDigits? (base : Nat) (t : Text) : Option Nat :=
  match t with
  | [] => none
  | _ => t.foldl (fun n c => do return (← n) * base + (← digitValue? base c)) (some 0)

/-- Whether a character is an ASCII digit. -/
def isDigit (c : Char) : Bool := '0' ≤ c && c ≤ '9'

/-- Whether a character is an ASCII letter. -/
def isLetter (c : Char) : Bool := ('a' ≤ c && c ≤ 'z') || ('A' ≤ c && c ≤ 'Z')

/-- The lower-case form of an ASCII letter; any other character is left alone. -/
def lowerAscii (c : Char) : Char :=
  if 'A' ≤ c ∧ c ≤ 'Z' then Char.ofNat (c.toNat + 32) else c

end Text

end Infill
