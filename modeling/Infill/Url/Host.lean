import Infill.Url.Address
import Infill.Url.Domain
import Infill.Url.Percent

/-!
# Hosts
-/

namespace Infill.Url

/-- The host of a URL; a URL without one has an empty name. -/
inductive Host
  | named (name : Text)
  | ipv4 (address : Nat)
  | ipv6 (groups : List Nat)
deriving DecidableEq, Repr

namespace Host

/-- The host as it stands in a URL. -/
def text : Host → Text
  | named name => name
  | ipv4 address => ipv4Text address
  | ipv6 groups => '[' :: ipv6Text groups ++ [']']

/-- Whether there is no host. -/
def isEmpty (h : Host) : Bool := h == named []

/-- Reads an address in square brackets. -/
def ofBrackets (inner : Text) : Except Fault Host :=
  match inner.getLast? with
  | some ']' =>
    match ipv6? inner.dropLast with
    | some groups => .ok (ipv6 groups)
    | none => .error .ipv6
  | _ => .error .ipv6

/-- Reads the host of a URL whose scheme has domains for hosts. -/
def parse (t : Text) : Except Fault Host :=
  match t with
  | '[' :: inner => ofBrackets inner
  | _ =>
    match Domain.toAscii? (unescape t) with
    | none => .error .domain
    | some [] => .error .emptyHost
    | some domain =>
      if endsInNumber domain then
        match ipv4? domain with
        | some address => .ok (ipv4 address)
        | none => .error .ipv4
      else .ok (named domain)

/-- Whether a character cannot stand in the host of a URL of an unknown scheme. -/
def isForbidden (c : Char) : Bool :=
  c == '\x00' || c == '\t' || c == '\n' || c == '\r' || c == ' ' || c == '#' || c == '/' ||
    c == ':' || c == '<' || c == '>' || c == '?' || c == '@' || c == '[' || c == '\\' || c == ']' ||
    c == '^' || c == '|'

/-- Reads the host of a URL of an unknown scheme. -/
def parseUnknown (t : Text) : Except Fault Host :=
  match t with
  | '[' :: inner => ofBrackets inner
  | _ => if t.any isForbidden then .error .hostCharacter else .ok (named (escape isControl t))

end Host

end Infill.Url
