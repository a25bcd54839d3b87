import Infill.Url.Fault

/-!
# Addresses

IPv4 addresses, whose numbers can be written in decimal, octal or hexadecimal, and IPv6 addresses,
in which `::` stands for groups that are zero.
-/

namespace Infill.Url

/-- The value of a number in an IPv4 address: hexadecimal behind `0x`, octal behind a zero, and
otherwise decimal. -/
def ipv4Number? (t : Text) : Option Nat :=
  let value (base : Nat) (digits : Text) : Option Nat :=
    if digits = [] then some 0 else Text.natOfDigits? base digits
  match t with
  | [] => none
  | '0' :: 'x' :: digits => value 16 digits
  | '0' :: 'X' :: digits => value 16 digits
  | '0' :: d :: digits => value 8 (d :: digits)
  | _ => value 10 t

/-- Whether a domain has to be an IPv4 address: its last part, apart from an empty one at the end,
is a number. -/
def endsInNumber (domain : Text) : Bool :=
  let isNumber (part : Text) : Bool :=
    (part != [] && part.all Text.isDigit) || (ipv4Number? part).isSome
  match (pieces '.' domain).reverse with
  | [] :: part :: _ => isNumber part
  | [] :: [] => false
  | part :: _ => isNumber part
  | [] => false

/-- The value of an address of the given numbers: every number but the last one is a byte, and the
last one fills the bytes that are left. -/
def ipv4OfNumbers? (numbers : List Nat) : Option Nat :=
  match numbers.reverse with
  | [] => none
  | last :: earlier =>
    if Nat.pow 256 (4 - earlier.length) ≤ last || earlier.any (255 < ·) then none
    else
      some ((earlier.reverse.zipIdx.map fun (n, i) => n * Nat.pow 256 (3 - i)).foldl (· + ·) last)

/-- Reads an IPv4 address. -/
def ipv4? (t : Text) : Option Nat :=
  let parts := pieces '.' t
  let parts := if parts.getLast? == some [] then parts.dropLast else parts
  if 4 < parts.length then none
  else
    match parts.mapM ipv4Number? with
    | some numbers => ipv4OfNumbers? numbers
    | none => none

/-- The four bytes of an IPv4 address in decimal. -/
def ipv4Text (n : Nat) : Text :=
  Text.join ['.'] ([n / 16777216, n / 65536 % 256, n / 256 % 256, n % 256].map Text.decimal)

/-- A group of an IPv6 address: one to four hexadecimal digits. -/
def ipv6Group? (t : Text) : Option Nat :=
  if t.length ≤ 4 then Text.natOfDigits? 16 t else none

/-- A byte of an IPv4 address within an IPv6 address, which is decimal without zeros in front. -/
def plainByte? (t : Text) : Option Nat :=
  if t.all Text.isDigit && (t.length ≤ 1 || t.head? != some '0') then
    (Text.natOfDigits? 10 t).filter (· ≤ 255)
  else none

/-- The groups between colons; the last one of the address can be an IPv4 address, which makes two
groups. -/
def ipv6Groups? (last : Bool) : List Text → Option (List Nat)
  | [] => some []
  | [t] =>
    if last && t.contains '.' then
      match (pieces '.' t).mapM plainByte? with
      | some [a, b, c, d] => some [a * 256 + b, c * 256 + d]
      | _ => none
    else (ipv6Group? t).map fun g => [g]
  | t :: rest =>
    match ipv6Group? t, ipv6Groups? last rest with
    | some g, some groups => some (g :: groups)
    | _, _ => none

/-- The text before and behind the first `::`. -/
def cutDoubleColon? : Text → Option (Text × Text)
  | ':' :: ':' :: rest => some ([], rest)
  | c :: rest => (cutDoubleColon? rest).map fun (before, after) => (c :: before, after)
  | [] => none

/-- The parts between colons, none in an empty text. -/
def colonParts (t : Text) : List Text := if t = [] then [] else pieces ':' t

/-- Reads an IPv6 address: eight groups, or at most seven with `::`. -/
def ipv6? (t : Text) : Option (List Nat) :=
  match cutDoubleColon? t with
  | none =>
    match ipv6Groups? true (colonParts t) with
    | some groups => if groups.length = 8 then some groups else none
    | none => none
  | some (before, after) =>
    match ipv6Groups? false (colonParts before), ipv6Groups? true (colonParts after) with
    | some front, some back =>
      let count := front.length + back.length
      if count ≤ 7 then some (front ++ List.replicate (8 - count) 0 ++ back) else none
    | _, _ => none

/-- How many zeros a list of groups starts with. -/
def zerosHere (groups : List Nat) : Nat := (groups.takeWhile (· == 0)).length

/-- The position and the length of the first longest run of zeros, if one is longer than `best`. -/
def longestZeros (best : Nat) (position : Nat) : List Nat → Option (Nat × Nat)
  | [] => none
  | g :: rest =>
    let here := zerosHere (g :: rest)
    if best < here then
      (longestZeros here (position + 1) rest).orElse fun _ => some (position, here)
    else longestZeros best (position + 1) rest

/-- An IPv6 address with `::` for the first longest run of at least two zeros. -/
def ipv6Text (groups : List Nat) : Text :=
  let joined (part : List Nat) : Text := Text.join [':'] (part.map (Text.numeral 16))
  match longestZeros 1 0 groups with
  | none => joined groups
  | some (position, length) =>
    joined (groups.take position) ++ [':', ':'] ++ joined (groups.drop (position + length))

end Infill.Url
