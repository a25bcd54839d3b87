import Infill.Binary64

/-!
# JSON values

Values, and their text without any blanks.  The members of an object stand in the order of their
names.  A whole number from -2^63 to 2^64 - 1 is kept as it is; any other number is a binary
floating-point number.
-/

namespace Infill.Json

/-- A number. -/
inductive Number
  | whole (n : Nat)
  | negative (n : Nat)
  | float (isNegative : Bool) (magnitude : Binary64)
deriving DecidableEq, Repr

end Infill.Json

namespace Infill

/-- A JSON value. -/
inductive Json
  | null
  | bool (b : Bool)
  | number (n : Json.Number)
  | string (t : Text)
  | array (items : List Json)
  | object (members : List (Text × Json))

namespace Json

/-- The greatest power of ten that a number with digits in front of the decimal point is written
without an exponent for. -/
def positionalDigits : Int := 16

/-- A positive decimal as text: digits and a decimal point from 0.00001 on and below 10^16, and an
exponent otherwise. -/
def decimalText (d : Binary64.Decimal) : Text :=
  let digits := dropEndWhile (· == '0') (Text.decimal d.digits)
  let point := (Text.decimal d.digits).length + d.exponent
  if 0 < point ∧ point ≤ positionalDigits then
    let whole := point.toNat
    let filled := digits ++ List.replicate (whole - digits.length) '0'
    let fraction := filled.drop whole
    filled.take whole ++ '.' :: (if fraction = [] then ['0'] else fraction)
  else if -5 < point ∧ point ≤ 0 then
    ['0', '.'] ++ List.replicate (-point).toNat '0' ++ digits
  else
    let exponent := point - 1
    let sign := if exponent < 0 then '-' else '+'
    let lead := digits.take 1 ++ (if digits.length ≤ 1 then [] else '.' :: digits.drop 1)
    lead ++ ['e', sign] ++ Text.decimal exponent.natAbs

/-- The text of a number: of a floating-point number, the shortest decimal that reads back. -/
def Number.text : Number → Text
  | whole n => Text.decimal n
  | negative n => '-' :: Text.decimal n
  | float isNegative magnitude =>
    (if isNegative then ['-'] else []) ++
      if magnitude.significand = 0 then "0.0".toList else decimalText magnitude.shortest

/-- A character within a string. -/
def escapedChar (c : Char) : Text :=
  match c with
  | '"' => ['\\', '"']
  | '\\' => ['\\', '\\']
  | '\x08' => ['\\', 'b']
  | '\x0C' => ['\\', 'f']
  | '\n' => ['\\', 'n']
  | '\r' => ['\\', 'r']
  | '\t' => ['\\', 't']
  | c =>
    if c.toNat < 0x20 then
      ['\\', 'u', '0', '0'] ++ Text.numeral 16 (c.toNat / 16) ++ Text.numeral 16 (c.toNat % 16)
    else [c]

/-- A string in quotes. -/
def stringText (t : Text) : Text := '"' :: t.flatMap escapedChar ++ ['"']

mutual

/-- The text of a value. -/
def text : Json → Text
  | null => "null".toList
  | bool true => "true".toList
  | bool false => "false".toList
  | number n => n.text
  | string t => stringText t
  | array items => '[' :: itemsText items ++ [']']
  | object members => '{' :: membersText members ++ ['}']

/-- The texts of items with commas between them. -/
def itemsText : List Json → Text
  | [] => []
  | [item] => text item
  | item :: rest => text item ++ ',' :: itemsText rest

/-- The texts of members with commas between them. -/
def membersText : List (Text × Json) → Text
  | [] => []
  | [(name, value)] => stringText name ++ ':' :: text value
  | (name, value) :: rest => stringText name ++ ':' :: text value ++ ',' :: membersText rest

end

/-- The members with a value put under a name, in the order of names, in place of the one that was
there. -/
def insert (name : Text) (value : Json) : List (Text × Json) → List (Text × Json)
  | [] => [(name, value)]
  | (other, v) :: rest =>
    if name < other then (name, value) :: (other, v) :: rest
    else if name = other then (name, value) :: rest
    else (other, v) :: insert name value rest

/-- The object of members in any order.  Of several members with one name the last counts. -/
def ofMembers (members : List (Text × Json)) : Json :=
  object (members.foldl (fun found m => insert m.1 m.2 found) [])

/-- The value under a name in a list of members. -/
def lookUp (name : Text) (members : List (Text × Json)) : Option Json :=
  (members.find? fun m => m.1 == name).map (·.2)

/-- The member of an object with a name. -/
def member? (j : Json) (name : Text) : Option Json :=
  match j with
  | object members => lookUp name members
  | _ => none

end Json

end Infill
