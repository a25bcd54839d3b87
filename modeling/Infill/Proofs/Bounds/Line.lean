import Infill.Bounds.Line
import Infill.Proofs.Action
import Infill.Proofs.Bounds.Reading

/-!
# Filling by positions

A line that is filled by positions comes to what filling it comes to (`Guarded.processLine_eq`).  A scan
by positions finds the placeholders of the template, the literal text between them is there to be cut
out, and all groups have been read.  So the line modifiers are the only steps that can be out of bounds.
-/

namespace Infill

open Infill.Action

namespace Guarded

/-- A step within bounds gives its result. -/
theorem ofStep_bind {α β : Type} (a : α) (k : α → Action β) : (Action.ofStep (.ok a) >>= k) = k a :=
  pure_bind a k

theorem settings_eq : Guarded.settings = Action.settings := by
  funext site cache
  rw [Guarded.settings, Action.settings]
  cases cache.settings with
  | some s => rfl
  | none =>
    rw [Settings.loadWithin_eq]
    cases Settings.load site.world.disk site.settingsPath <;> rfl

theorem resolveReference_eq (key : Text) :
    Guarded.resolveReference key = Infill.resolveReference key := by
  rw [Guarded.resolveReference, settings_eq]
  rfl

theorem resolvePlain_eq : Guarded.resolvePlain = Infill.resolvePlain := by
  funext t
  cases t with
  | secret path key => rfl
  | setting key => exact resolveReference_eq key

end Guarded

variable [Pattern.Limit]

/-- Fills the placeholders of a template.  The modifiers that are given with the text have not acted on
it as a line. -/
def Template.fillIn (resolve : Target → Action Text) (t : Template) : Action (Text × List Chain) := do
  let filled ← fillHoles resolve t.holes
  return (fill (filled.map fun f => (f.before, f.value)) t.tail, filled.map (·.chain))

theorem fillLine_eq_fillIn (d : Dialect) (resolve : Target → Action Text) (line : Text) :
    fillLine d resolve line =
      (Template.ofLine d line).fillIn resolve >>= fun more =>
        Action.ofStep (more.2.foldlM (fun line chain => chain.applyLine line) more.1) := by
  rw [Template.fillIn, bind_assoc]
  simp only [pure_bind]
  rfl

namespace Guarded

/-- Placeholders that are found by positions are filled as those of a template are: the literal text is
the part of the line between them. -/
theorem fillFrom_eq (resolve : Target → Action Text) {line : Text} (front : Text) {t : Template}
    (hline : line = front ++ t.text) :
    fillFrom resolve line (Utf8.size front) (Template.occurrencesFrom (Utf8.size front) t.holes) =
      t.fillIn resolve := by
  obtain ⟨holes, tail⟩ := t
  -- By induction on the placeholders; `front` is what has been used of the line, and it grows.
  induction holes generalizing front with
  | nil =>
    have htail : Utf8.part line (Utf8.size front) (Utf8.size line) = .ok tail := by
      rw [hline]
      exact Utf8.part_end front tail
    rw [Template.occurrencesFrom, fillFrom, htail, ofStep_bind]
    rfl
  | cons hole holes ih =>
    obtain ⟨before, p⟩ := hole
    have hline' : line = front ++ before ++ p.text ++ Template.text { holes, tail } := by
      rw [hline]
      simp [Template.text]
    have hbefore : Utf8.part line (Utf8.size front) (Utf8.size front + Utf8.size before) =
        .ok before := by
      rw [hline', List.append_assoc _ p.text, ← Utf8.size_append]
      exact Utf8.part_append _ _ _
    have hrest := ih _ hline'
    rw [Utf8.size_append, Utf8.size_append] at hrest
    rw [Template.occurrencesFrom, fillFrom]
    simp only [Chain.parseWithin_eq, ofStep_bind, hbefore, hrest, Template.fillIn, fillHoles, fillHole,
      bind_assoc, pure_bind]
    rfl

/-- Filling the placeholders of a dialect by positions takes no cut out of bounds. -/
theorem fillLine_eq (d : Dialect) (resolve : Target → Action Text) (line : Text) :
    Guarded.fillLine d resolve line = Infill.fillLine d resolve line := by
  have hfill := fillFrom_eq resolve [] (Template.text_ofLine d line).symm
  rw [Guarded.fillLine, Dialect.findWithin_eq, ofStep_bind, fillLine_eq_fillIn, ← hfill]
  rfl

theorem fillSecrets_eq (text : Text) : Guarded.fillSecrets text = Infill.fillSecrets text := by
  rw [Guarded.fillSecrets, resolvePlain_eq, fillLine_eq, Infill.fillSecrets]

theorem resolveDeep_eq : Guarded.resolveDeep = Infill.resolveDeep := by
  funext t
  cases t with
  | secret path key => rfl
  | setting key =>
    rw [Guarded.resolveDeep, Infill.resolveDeep, resolveReference_eq]
    simp only [fillSecrets_eq]

theorem fillReferences_eq (line : Text) :
    Guarded.fillReferences line = Infill.fillReferences line := by
  rw [Guarded.fillReferences, resolveDeep_eq, fillLine_eq, Infill.fillReferences]

/-- To fill a line by positions is to fill it: it comes to the same, it asks and warns in the same way,
and the same has been loaded. -/
theorem processLine_eq (line : Text) : Guarded.processLine line = Infill.processLine line := by
  rw [Guarded.processLine, Infill.processLine, fillSecrets_eq, fillReferences_eq]

end Guarded

end Infill
