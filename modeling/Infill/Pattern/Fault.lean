import Infill.Text.Basic

/-!
# Faults of patterns

Why a text is no pattern.
-/

namespace Infill.Pattern

/-- Why a text is no pattern. -/
inductive Fault
  | groupUnclosed
  | groupUnopened
  | groupName
  | groupNameTwice
  | flags
  | lookAround
  | nothingToRepeat
  | repetition
  | classUnclosed
  | classRange
  | classEscape
  | escape
  | backreference
  | hexadecimal
  | property
  | boundary
  | notText
  | tooDeep
  | tooLarge
deriving DecidableEq, Repr

/-- The wording of a fault. -/
def Fault.message : Fault → Text
  | .groupUnclosed => "unclosed group".toList
  | .groupUnopened => "unopened group".toList
  | .groupName => "invalid capture group name".toList
  | .groupNameTwice => "duplicate capture group name".toList
  | .flags => "invalid flags".toList
  | .lookAround => "look-around is not supported".toList
  | .nothingToRepeat => "repetition operator missing expression".toList
  | .repetition => "invalid repetition count".toList
  | .classUnclosed => "unclosed character class".toList
  | .classRange => "invalid character class range".toList
  | .classEscape => "invalid escape sequence in character class".toList
  | .escape => "unrecognized escape sequence".toList
  | .backreference => "backreferences are not supported".toList
  | .hexadecimal => "invalid hexadecimal escape".toList
  | .property => "unknown character property".toList
  | .boundary => "invalid word boundary assertion".toList
  | .notText => "pattern can match invalid UTF-8".toList
  | .tooDeep => "pattern is nested too deeply".toList
  | .tooLarge => "compiled pattern exceeds the size limit".toList

end Infill.Pattern
