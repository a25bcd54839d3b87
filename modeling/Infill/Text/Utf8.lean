import Infill.Text.Basic

/-!
# UTF-8

`Utf8.encode` writes a text as bytes.  Decoding reads a stream byte by byte and reports, in
order, each character it holds and each fault: a byte that can begin no character, or the
longest beginning of a character that the next byte does not continue.  `Utf8.decode?` accepts
streams without a fault only; `Utf8.decodeLossy` puts U+FFFD in the place of each fault.
-/

namespace Infill.Utf8

/-- The bytes of one character. -/
def encodeChar (c : Char) : Bytes :=
  let n := c.toNat
  if n < 0x80 then [UInt8.ofNat n]
  else if n < 0x800 then [UInt8.ofNat (0xC0 + n / 64), UInt8.ofNat (0x80 + n % 64)]
  else if n < 0x10000 then
    [UInt8.ofNat (0xE0 + n / 4096), UInt8.ofNat (0x80 + n / 64 % 64), UInt8.ofNat (0x80 + n % 64)]
  else
    [UInt8.ofNat (0xF0 + n / 262144), UInt8.ofNat (0x80 + n / 4096 % 64),
      UInt8.ofNat (0x80 + n / 64 % 64), UInt8.ofNat (0x80 + n % 64)]

/-- The bytes of a text. -/
def encode (t : Text) : Bytes := t.flatMap encodeChar

/-- How many bytes a text takes. -/
def size (t : Text) : Nat := t.foldl (fun n c => n + (encodeChar c).length) 0

/-- The beginning of a character of several bytes: the bits read so far, how many bytes come
after the next one, and the range the next one has to be in. -/
structure Partial where
  bits : Nat
  more : Nat
  low : Nat := 0x80
  high : Nat := 0xBF
deriving DecidableEq, Repr

/-- What a byte of at least 0x80 begins.  The ranges exclude overlong forms, surrogates and
numbers beyond the last character. -/
def Partial.ofLead? (b : Nat) : Option Partial :=
  if 0xC2 ≤ b ∧ b ≤ 0xDF then some ⟨b - 0xC0, 0, 0x80, 0xBF⟩
  else if b = 0xE0 then some ⟨0, 1, 0xA0, 0xBF⟩
  else if b = 0xED then some ⟨0xD, 1, 0x80, 0x9F⟩
  else if 0xE1 ≤ b ∧ b ≤ 0xEF then some ⟨b - 0xE0, 1, 0x80, 0xBF⟩
  else if b = 0xF0 then some ⟨0, 2, 0x90, 0xBF⟩
  else if b = 0xF4 then some ⟨4, 2, 0x80, 0x8F⟩
  else if 0xF1 ≤ b ∧ b ≤ 0xF3 then some ⟨b - 0xF0, 2, 0x80, 0xBF⟩
  else none

/-- What decoding has found: a character, or a fault (`none`). -/
abbrev Found := List (Option Char)

/-- Reads a byte with no character under way. -/
def start (b : Nat) : Found × Option Partial :=
  if b < 0x80 then ([some (Char.ofNat b)], none)
  else
    match Partial.ofLead? b with
    | none => ([none], none)
    | some p => ([], some p)

/-- Reads a byte. -/
def feed (pending : Option Partial) (b : Nat) : Found × Option Partial :=
  match pending with
  | none => start b
  | some p =>
    if p.low ≤ b ∧ b ≤ p.high then
      let bits := p.bits * 64 + (b - 0x80)
      match p.more with
      | 0 => ([some (Char.ofNat bits)], none)
      | more + 1 => ([], some { bits, more })
    else (none :: (start b).1, (start b).2)

/-- Decodes the rest of a stream. -/
def decodeFrom : Option Partial → Bytes → Found
  | none, [] => []
  | some _, [] => [none]
  | pending, b :: rest =>
    (feed pending b.toNat).1 ++ decodeFrom (feed pending b.toNat).2 rest

/-- The characters and faults of a stream. -/
def found (bytes : Bytes) : Found := decodeFrom none bytes

/-- The text a stream encodes, if it has no fault. -/
def decode? (bytes : Bytes) : Option Text :=
  let all := found bytes
  if all.all Option.isSome then some (all.filterMap id) else none

/-- The text of a stream with U+FFFD for each fault. -/
def decodeLossy (bytes : Bytes) : Text := (found bytes).map (·.getD '\uFFFD')

end Infill.Utf8
