import Infill.Text.Utf8
import Infill.Url.Label

/-!
# Domains

A domain is compared in a form in which upper-case letters, and many other characters, have been
replaced, and in which every label is ASCII.
-/

namespace Infill.Url.Domain

/-- The text with characters replaced that have a counterpart in domains, in its composed form. -/
def settled? (t : Text) : Option Text :=
  (t.mapM Unicode.domainText?).map fun parts => Unicode.composed parts.flatten

/-- Whether the labels of a domain go together: each is well formed, and where one holds something
written from right to left, each keeps to one direction. -/
def areWellFormed (labels : List Text) : Bool :=
  labels.all Label.isWellFormed &&
    (!labels.any (·.any Label.isRightToLeft) || labels.all Label.keepsDirection)

/-- The labels of a domain. -/
def labels? (t : Text) : Option (List Text) :=
  ((settled? t).bind fun settled => (pieces '.' settled).mapM Label.read?).filter areWellFormed

/-- The ASCII form of a domain. -/
def toAscii? (bytes : Bytes) : Option Text :=
  ((Utf8.decode? bytes).bind labels?).map fun labels =>
    Text.join ['.'] (labels.map Label.toAscii)

end Infill.Url.Domain
