import Infill.Json.Basic

/-!
# Reading JSON

A text is one value with white space around it.  Values are nested at most 127 levels deep.

A number that is no 64-bit whole number is read as a significand of 64 bits and a power of ten: the
digits that do not fit into the significand any more only count for the power.  The significand is
rounded to a floating-point number and multiplied or divided by the power of ten, which is rounded
itself.  What becomes too great is refused.
-/

namespace Infill.Json

/-- Why a text is no JSON. -/
inductive Fault
  | value
  | number
  | outOfRange
  | string
  | escape
  | list
  | object
  | tooDeep
  | trailing
deriving DecidableEq, Repr

/-- The wording of a fault. -/
def Fault.message : Fault → Text
  | .value => "expected value".toList
  | .number => "invalid number".toList
  | .outOfRange => "number out of range".toList
  | .string => "invalid string".toList
  | .escape => "invalid escape".toList
  | .list => "expected `,` or `]`".toList
  | .object => "expected `,` or the end of the object".toList
  | .tooDeep => "recursion limit exceeded".toList
  | .trailing => "trailing characters".toList

/-- White space. -/
def isBlank (c : Char) : Bool := c == ' ' || c == '\n' || c == '\t' || c == '\r'

/-- The text without the white space it starts with. -/
def skipBlanks (t : Text) : Text := t.dropWhile isBlank

/-- The greatest significand. -/
def significandLimit : Nat := Nat.pow 2 64 - 1

/-- The greatest exponent of ten that can be written. -/
def exponentLimit : Nat := Nat.pow 2 31 - 1

/-- Takes digits into a significand as long as they fit, and counts them. -/
def accumulate : (significand count : Nat) → Text → Nat × Nat
  | significand, count, [] => (significand, count)
  | significand, count, c :: rest =>
    let next := significand * 10 + (c.toNat - '0'.toNat)
    if significandLimit < next then (significand, count) else accumulate next (count + 1) rest

/-- The floating-point power of ten, which has to be at most 10^308. -/
def powerOfTen (n : Nat) : Binary64 := (Binary64.ofNat? (Nat.pow 10 n)).getD .zero

/-- The greatest power of ten. -/
def greatestPower : Nat := 308

/-- Divides by a power of ten, in several steps if it is a great one.  After two divisions by the
greatest power nothing is left of a significand. -/
def divided : (steps : Nat) → Binary64 → Nat → Binary64
  | 0, _, _ => .zero
  | steps + 1, x, power =>
    if power ≤ greatestPower then (x.div? (powerOfTen power)).getD .zero
    else divided steps ((x.div? (powerOfTen greatestPower)).getD .zero) (power - greatestPower)

/-- A significand times a power of ten. -/
def ofParts (significand : Nat) (exponent : Int) : Except Fault Binary64 :=
  let x := (Binary64.ofNat? significand).getD .zero
  if exponent < 0 then .ok (divided 4 x exponent.natAbs)
  else if significand = 0 then .ok .zero
  else if greatestPower < exponent.toNat then .error .outOfRange
  else
    match x.mul? (powerOfTen exponent.toNat) with
    | some y => .ok y
    | none => .error .outOfRange

/-- The digits of a numeral: those of its whole part, of its fraction, if there is one, and of its
exponent, if there is one, with the exponent's sign. -/
structure Numeral where
  isNegative : Bool
  whole : Text
  fraction : Option Text
  exponent : Option (Bool × Text)

/-- The number that a numeral stands for. -/
def Numeral.number (n : Numeral) : Except Fault Number :=
  let (significand, taken) := accumulate 0 0 n.whole
  let dropped := n.whole.length - taken
  if n.fraction.isNone && n.exponent.isNone && dropped = 0 then
    if !n.isNegative then .ok (.whole significand)
    else if 0 < significand ∧ significand ≤ Nat.pow 2 63 then .ok (.negative significand)
    else .ok (.float true ((Binary64.ofNat? significand).getD .zero))
  else
    let (significand, takenAfter) := accumulate significand 0 (n.fraction.getD [])
    let base : Int := (dropped : Int) - takenAfter
    let magnitude :=
      match n.exponent with
      | none => ofParts significand base
      | some (isNegative, digits) =>
        let power := (Text.natOfDigits? 10 digits).getD 0
        if exponentLimit < power then
          if significand != 0 && !isNegative then .error .outOfRange else .ok .zero
        else ofParts significand (if isNegative then base - power else base + power)
    magnitude.map (.float n.isNegative)

/-- Takes the fraction of a numeral, with its point. -/
def takeFraction (t : Text) : Except Fault (Option Text × Text) :=
  match t with
  | '.' :: rest =>
    let digits := rest.takeWhile Text.isDigit
    if digits = [] then .error .number else .ok (some digits, rest.dropWhile Text.isDigit)
  | _ => .ok (none, t)

/-- Takes the exponent of a numeral, with its mark. -/
def takeExponent (t : Text) : Except Fault (Option (Bool × Text) × Text) :=
  let digits (isNegative : Bool) (rest : Text) : Except Fault (Option (Bool × Text) × Text) :=
    let taken := rest.takeWhile Text.isDigit
    if taken = [] then .error .number
    else .ok (some (isNegative, taken), rest.dropWhile Text.isDigit)
  match t with
  | c :: rest =>
    if c == 'e' || c == 'E' then
      match rest with
      | '+' :: rest => digits false rest
      | '-' :: rest => digits true rest
      | _ => digits false rest
    else .ok (none, t)
  | [] => .ok (none, t)

/-- Takes a numeral behind its sign. -/
def takeNumeral (isNegative : Bool) (t : Text) : Except Fault (Numeral × Text) := do
  let whole := t.takeWhile Text.isDigit
  if whole = [] || (whole.head? == some '0' && 1 < whole.length) then throw .number
  let (fraction, t) ← takeFraction (t.dropWhile Text.isDigit)
  let (exponent, t) ← takeExponent t
  return ({ isNegative, whole, fraction, exponent }, t)

/-- Takes a number. -/
def takeNumber (t : Text) : Except Fault (Number × Text) := do
  let (numeral, rest) ←
    match t with
    | '-' :: rest => takeNumeral true rest
    | _ => takeNumeral false t
  return (← numeral.number, rest)

/-- The unit of UTF-16 that four hexadecimal digits stand for, and the text behind them. -/
def takeUnit (t : Text) : Except Fault (Nat × Text) :=
  let digits := t.take 4
  match Text.natOfDigits? 16 digits with
  | some n => if digits.length = 4 then .ok (n, t.drop 4) else .error .escape
  | none => .error .escape

/-- The character that hexadecimal digits stand for behind `\u`: one outside of the first plane is
written as two units, and a unit of such a pair does not stand alone. -/
def takeUnicode (t : Text) : Except Fault (Char × Text) := do
  let (first, rest) ← takeUnit t
  if 0xD800 ≤ first ∧ first < 0xDC00 then
    match rest with
    | '\\' :: 'u' :: more =>
      let (second, rest) ← takeUnit more
      if 0xDC00 ≤ second ∧ second < 0xE000 then
        return (Char.ofNat (0x10000 + (first - 0xD800) * 0x400 + (second - 0xDC00)), rest)
      else throw .escape
    | _ => throw .escape
  else if 0xDC00 ≤ first ∧ first < 0xE000 then throw .escape
  else return (Char.ofNat first, rest)

/-- The character that a letter stands for behind a backslash. -/
def escaped? (c : Char) : Option Char :=
  match c with
  | '"' => some '"'
  | '\\' => some '\\'
  | '/' => some '/'
  | 'b' => some '\x08'
  | 'f' => some '\x0C'
  | 'n' => some '\n'
  | 'r' => some '\r'
  | 't' => some '\t'
  | _ => none

/-- Takes a string behind its opening quote.  `seen` holds what has been read, last character
first. -/
def takeString : (fuel : Nat) → (seen : Text) → Text → Except Fault (Text × Text)
  | 0, _, _ => .error .string
  | _, _, [] => .error .string
  | fuel + 1, seen, c :: rest =>
    if c == '"' then .ok (seen.reverse, rest)
    else if c == '\\' then
      match rest with
      | [] => .error .escape
      | 'u' :: rest =>
        match takeUnicode rest with
        | .error fault => .error fault
        | .ok (c, rest) => takeString fuel (c :: seen) rest
      | letter :: rest =>
        match escaped? letter with
        | none => .error .escape
        | some c => takeString fuel (c :: seen) rest
    else if c.toNat < 0x20 then .error .string
    else takeString fuel (c :: seen) rest

/-- A reader of values. -/
abbrev ValueReader := Text → Except Fault (Json × Text)

/-- Takes the items of an array up to its end, at least one of them. -/
def takeItems (value : ValueReader) : (fuel : Nat) → Text → Except Fault (List Json × Text)
  | 0, _ => .error .list
  | fuel + 1, t =>
    match value (skipBlanks t) with
    | .error fault => .error fault
    | .ok (item, rest) =>
      match skipBlanks rest with
      | ',' :: rest =>
        match takeItems value fuel rest with
        | .error fault => .error fault
        | .ok (items, rest) => .ok (item :: items, rest)
      | ']' :: rest => .ok ([item], rest)
      | _ => .error .list

/-- Takes a member of an object. -/
def takeMember (value : ValueReader) (t : Text) : Except Fault ((Text × Json) × Text) :=
  match skipBlanks t with
  | '"' :: rest =>
    match takeString rest.length [] rest with
    | .error fault => .error fault
    | .ok (name, rest) =>
      match skipBlanks rest with
      | ':' :: rest =>
        match value (skipBlanks rest) with
        | .error fault => .error fault
        | .ok (v, rest) => .ok ((name, v), rest)
      | _ => .error .object
  | _ => .error .object

/-- Takes the members of an object up to its end, at least one of them. -/
def takeMembers (value : ValueReader) : (fuel : Nat) → Text →
    Except Fault (List (Text × Json) × Text)
  | 0, _ => .error .object
  | fuel + 1, t =>
    match takeMember value t with
    | .error fault => .error fault
    | .ok (m, rest) =>
      match skipBlanks rest with
      | ',' :: rest =>
        match takeMembers value fuel rest with
        | .error fault => .error fault
        | .ok (members, rest) => .ok (m :: members, rest)
      | '}' :: rest => .ok ([m], rest)
      | _ => .error .object

/-- Takes a word. -/
def takeWord (word : String) (value : Json) (t : Text) : Except Fault (Json × Text) :=
  match afterLead? word.toList t with
  | some rest => .ok (value, rest)
  | none => .error .value

/-- Takes a value that holds at most `depth` levels of arrays and objects. -/
def takeValue (depth : Nat) (t : Text) : Except Fault (Json × Text) :=
  match t with
  | [] => .error .value
  | c :: rest =>
    if c == 'n' then takeWord "null" .null t
    else if c == 't' then takeWord "true" (.bool true) t
    else if c == 'f' then takeWord "false" (.bool false) t
    else if c == '"' then (takeString rest.length [] rest).map fun (s, rest) => (.string s, rest)
    else if c == '-' || Text.isDigit c then
      (takeNumber t).map fun (n, rest) => (.number n, rest)
    else if c == '[' then
      match depth with
      | 0 => .error .tooDeep
      | depth + 1 =>
        match skipBlanks rest with
        | ']' :: rest => .ok (.array [], rest)
        | _ =>
          (takeItems (takeValue depth) rest.length rest).map fun (items, rest) =>
            (.array items, rest)
    else if c == '{' then
      match depth with
      | 0 => .error .tooDeep
      | depth + 1 =>
        match skipBlanks rest with
        | '}' :: rest => .ok (.object [], rest)
        | _ =>
          (takeMembers (takeValue depth) rest.length rest).map fun (members, rest) =>
            (ofMembers members, rest)
    else .error .value

/-- How deep values can be nested. -/
def depthLimit : Nat := 127

/-- Reads a text. -/
def parse (t : Text) : Except Fault Json :=
  match takeValue depthLimit (skipBlanks t) with
  | .error fault => .error fault
  | .ok (j, rest) => if skipBlanks rest = [] then .ok j else .error .trailing

end Infill.Json
