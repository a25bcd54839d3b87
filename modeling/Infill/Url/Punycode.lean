import Infill.Text.Basic

/-!
# Punycode

A label that is not ASCII is written as its ASCII characters and a hyphen, followed by numbers that
say where the other characters have to be inserted.  The characters are inserted in the order of
their code points, those of one code point from left to right, and each number is the distance to
the place of the one before, counted over all places and all code points in between.  The digits of
a number come lowest first; a digit below a threshold ends the number, and the thresholds adapt to
the numbers met so far.
-/

namespace Infill.Url.Punycode

/-- The number of digits. -/
def base : Nat := 36

/-- The first code point that is inserted. -/
def firstCode : Nat := 0x80

/-- The digit with a value. -/
def digit (n : Nat) : Char :=
  if n < 26 then Char.ofNat ('a'.toNat + n) else Char.ofNat ('0'.toNat + (n - 26))

/-- The value of a digit. -/
def digitValue? (c : Char) : Option Nat :=
  if Text.isDigit c then some (c.toNat - '0'.toNat + 26)
  else if Text.isLetter c then some ((Text.lowerAscii c).toNat - 'a'.toNat)
  else none

/-- Below which value the digit at a position ends a number. -/
def threshold (bias position : Nat) : Nat := max 1 (min 26 (position - bias))

theorem threshold_pos (bias position : Nat) : 0 < threshold bias position := by
  unfold threshold
  omega

/-- The bias of the first number. -/
def firstBias : Nat := 72

/-- The position of the first digit of a number. -/
def firstPosition : Nat := base

/-- Divides a number until it is small, and counts positions. -/
def settle (position n : Nat) : Nat :=
  if 455 < n then settle (position + base) (n / 35)
  else position + base * n / (n + 38)
termination_by n
decreasing_by omega

/-- The bias after a number, when `count` characters are there; the first number is expected to be
much larger than the others. -/
def adapt (number count : Nat) (isFirst : Bool) : Nat :=
  let scaled := if isFirst then number / 700 else number / 2
  settle 0 (scaled + scaled / count)

/-! ## Writing -/

/-- The digits of a number from a position on. -/
def digits (bias position n : Nat) : Text :=
  let t := threshold bias position
  if n < t then [digit n]
  else digit (t + (n - t) % (base - t)) :: digits bias (position + base) ((n - t) / (base - t))
termination_by n
decreasing_by
  have := threshold_pos bias position
  exact Nat.lt_of_le_of_lt (Nat.div_le_self _ _) (by omega)

/-- What has been written so far. -/
structure Encoding where
  written : Text := []
  /-- The distance from the last place. -/
  distance : Nat := 0
  bias : Nat := firstBias
  /-- How many characters are there. -/
  count : Nat
  isFirst : Bool := true

/-- Goes on to a character of the label, while characters with a code point are inserted. -/
def Encoding.pass (code : Nat) (e : Encoding) (c : Char) : Encoding :=
  if c.toNat < code then { e with distance := e.distance + 1 }
  else if c.toNat = code then
    { written := e.written ++ digits e.bias firstPosition e.distance
      distance := 0
      bias := adapt e.distance (e.count + 1) e.isFirst
      count := e.count + 1
      isFirst := false }
  else e

/-- Inserts the characters with given code points; `next` is the first code point not passed. -/
def Encoding.insertAll (label : Text) (e : Encoding) (next : Nat) : List Nat → Encoding
  | [] => e
  | code :: rest =>
    let skipped := { e with distance := e.distance + (code - next) * (e.count + 1) }
    let passed := label.foldl (Encoding.pass code) skipped
    Encoding.insertAll label { passed with distance := passed.distance + 1 } (code + 1) rest

/-- Writes a label. -/
def encode (label : Text) : Text :=
  let plain := label.filter fun c => c.toNat < firstCode
  let codes := ((label.map Char.toNat).filter (firstCode ≤ ·)).mergeSort.eraseDups
  let start : Encoding := { count := plain.length }
  plain ++ (if plain = [] then [] else ['-']) ++
    (Encoding.insertAll label start firstCode codes).written

/-! ## Reading -/

/-- What has been read so far. -/
structure Decoding where
  label : Text
  code : Nat := firstCode
  /-- Behind which place the next distance begins. -/
  place : Nat := 0
  bias : Nat := firstBias
  isFirst : Bool := true
  /-- The number that is being read, the weight of its next digit and the position of that. -/
  number : Nat := 0
  weight : Nat := 1
  position : Nat := firstPosition

/-- Inserts a character at the distance that has been read. -/
def Decoding.insert? (d : Decoding) (number : Nat) : Option Decoding :=
  let count := d.label.length + 1
  let code := d.code + (d.place + number) / count
  let place := (d.place + number) % count
  if h : code.isValidChar then
    some {
      label := d.label.take place ++ Char.ofNatAux code h :: d.label.drop place
      code
      place := place + 1
      bias := adapt number count d.isFirst
      isFirst := false }
  else none

/-- Reads a digit. -/
def Decoding.read? (d : Decoding) (c : Char) : Option Decoding :=
  match digitValue? c with
  | none => none
  | some value =>
    let number := d.number + value * d.weight
    let t := threshold d.bias d.position
    if value < t then d.insert? number
    else some { d with number, weight := d.weight * (base - t), position := d.position + base }

/-- Reads a label, unless a character is no digit, the last number has no end or a number goes past
the last code point. -/
def decode? (t : Text) : Option Text :=
  let behind := (t.reverse.takeWhile (· != '-')).reverse
  let before := t.take (t.length - behind.length)
  let (label, numbers) := if before.length ≤ 1 then ([], t) else (before.dropLast, behind)
  match numbers.foldlM Decoding.read? { label } with
  | some d => if d.position = firstPosition then some d.label else none
  | none => none

end Infill.Url.Punycode
