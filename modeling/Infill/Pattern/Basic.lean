import Infill.Unicode.Property

/-!
# Patterns

A pattern is a regular expression over characters with assertions about the neighbourhood of a
position.  Whether a pattern prefers short or long matches, and which part matched which group,
makes no difference to where it matches, so neither is recorded.
-/

namespace Infill

/-- An assertion about a position in a text. -/
inductive Look
  | start
  | stop
  | lineStart
  | lineStop
  | lineStartReturn
  | lineStopReturn
  | boundary (unicode : Bool)
  | noBoundary (unicode : Bool)
  | wordStart (unicode : Bool)
  | wordStop (unicode : Bool)
  | wordStartHalf (unicode : Bool)
  | wordStopHalf (unicode : Bool)
deriving DecidableEq, Repr

/-- A regular expression. -/
inductive Pattern
  | empty
  | set (members : Unicode.CharSet)
  | look (assertion : Look)
  | seq (first second : Pattern)
  | alt (first second : Pattern)
  | repeat (least : Nat) (most : Option Nat) (body : Pattern)
deriving DecidableEq, Repr

namespace Pattern

/-- The ASCII characters of words. -/
def asciiWord : Unicode.CharSet := [(0x30, 0x39), (0x41, 0x5A), (0x5F, 0x5F), (0x61, 0x7A)]

/-- The characters of words, in the sense of Unicode or of ASCII. -/
def wordSet (unicode : Bool) : Unicode.CharSet :=
  if unicode then Unicode.wordCharacters else asciiWord

/-- Whether a neighbour of a position is a character of a word. -/
def isWord (unicode : Bool) (c : Option Char) : Bool :=
  match c with
  | none => false
  | some c => (wordSet unicode).has c

end Pattern

/-- Whether an assertion holds between two characters, `none` being an end of the text. -/
def Look.holds (before after : Option Char) : Look → Bool
  | .start => before.isNone
  | .stop => after.isNone
  | .lineStart => before.isNone || before == some '\n'
  | .lineStop => after.isNone || after == some '\n'
  | .lineStartReturn =>
    before.isNone || before == some '\n' || (before == some '\r' && after != some '\n')
  | .lineStopReturn =>
    after.isNone || after == some '\r' || (after == some '\n' && before != some '\r')
  | .boundary u => Pattern.isWord u before != Pattern.isWord u after
  | .noBoundary u => Pattern.isWord u before == Pattern.isWord u after
  | .wordStart u => !Pattern.isWord u before && Pattern.isWord u after
  | .wordStop u => Pattern.isWord u before && !Pattern.isWord u after
  | .wordStartHalf u => !Pattern.isWord u before
  | .wordStopHalf u => !Pattern.isWord u after

namespace Pattern

/-- Whether the pattern matches nothing but the empty text. -/
def isHollow : Pattern → Bool
  | .empty => true
  | .set _ => false
  | .look _ => true
  | .seq a b => a.isHollow && b.isHollow
  | .alt a b => a.isHollow && b.isHollow
  | .repeat _ most body => body.isHollow || most == some 0

/-- The repetition of a pattern.  To match the empty text more than once is to match it once, so
the counts of a hollow pattern are cut down to one. -/
def repeated (least : Nat) (most : Option Nat) (body : Pattern) : Pattern :=
  if body.isHollow then .repeat (min least 1) (some (min (most.getD 1) 1)) body
  else .repeat least most body

/-- The patterns one after the other. -/
def sequence : List Pattern → Pattern
  | [] => .empty
  | [p] => p
  | p :: rest => .seq p (sequence rest)

/-- Any one of the patterns. -/
def choice : List Pattern → Pattern
  | [] => .set []
  | [p] => p
  | p :: rest => .alt p (choice rest)

end Pattern

end Infill
