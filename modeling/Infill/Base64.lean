import Infill.Text.Utf8

/-!
# Base64

The standard alphabet with padding: three bytes become four characters of six bits each, and a
shorter group at the end is filled up with `=`.
-/

namespace Infill.Base64

/-- The alphabet in the order of the values of its characters. -/
def alphabet : Text := "ABCDEFGHIJKLMNOPQRSTUVWXYZabcdefghijklmnopqrstuvwxyz0123456789+/".toList

/-- The character for a value of six bits. -/
def digit (n : Nat) : Char := alphabet.getD n '='

/-- The encoding of a sequence of bytes. -/
def encodeBytes : Bytes → Text
  | a :: b :: c :: rest =>
    let n := a.toNat * 65536 + b.toNat * 256 + c.toNat
    digit (n / 262144) :: digit (n / 4096 % 64) :: digit (n / 64 % 64) :: digit (n % 64) ::
      encodeBytes rest
  | [a, b] =>
    let n := a.toNat * 65536 + b.toNat * 256
    [digit (n / 262144), digit (n / 4096 % 64), digit (n / 64 % 64), '=']
  | [a] =>
    let n := a.toNat * 65536
    [digit (n / 262144), digit (n / 4096 % 64), '=', '=']
  | [] => []

/-- The encoding of the UTF-8 bytes of a text. -/
def encode (t : Text) : Text := encodeBytes (Utf8.encode t)

end Infill.Base64
