import Infill.Proofs.Filling
import Infill.Proofs.Line

/-!
# Lines that are one reference

A line that is nothing but a reference is looked up under the key of the reference and under nothing
else, if there is no colon in the key: then no secret starts in it, whatever else the key holds
(`processLine_reference`).
-/

namespace Infill

open Infill.Action

/-- What the modifiers of the line make of the value and then of the line. -/
def modified [Pattern.Limit] (modifiers : Option Text) (t : Text) : Except Breach Text :=
  let chain := Chain.parse (modifiers.getD [])
  chain.applyLine (chain.applyData t)

section Spelled

/-- A part of a text that stands before a character ends before it. -/
theorem exists_eq_append_of_stop {α : Type} {before part after rest : List α} {a : α}
    (h : before ++ a :: after = part ++ rest) (ha : a ∉ part) : ∃ more, before = part ++ more := by
  rcases List.append_eq_append_iff.mp h with ⟨u, rfl, hrest⟩ | ⟨u, hbefore, -⟩
  · cases u with
    | nil => exact ⟨[], by rw [List.append_nil, List.append_nil]⟩
    | cons b u =>
      rw [List.cons_append, List.cons.injEq] at hrest
      exact absurd (by simp [hrest.1]) ha
  · exact ⟨u, hbefore⟩

/-- No secret starts in a text without a colon if the end of a placeholder's names stands behind
it. -/
theorem noStart_secret_of_no_colon {t : Text} (ht : ':' ∉ t) {c : Char} (hc : c = '}' ∨ c = '|')
    (more : Text) : Dialect.secret.NoStart t (c :: more) := by
  intro before after htext _
  refine Option.eq_none_iff_forall_ne_some.mpr fun p hp => ?_
  obtain ⟨rest, hkeyword⟩ := Dialect.afterKeyword?_of_opens? hp
  obtain ⟨gap, hgap, htext'⟩ := Dialect.afterKeyword?_eq_some_iff.mp hkeyword
  have hstop : c ∉ ['$', '{'] ++ gap ++ Dialect.secret.keyword := by
    have hblank : Text.isBlank c = false := by rcases hc with rfl | rfl <;> decide
    have houtside : c ∉ ['$', '{'] ∧ c ∉ Dialect.secret.keyword := by
      rcases hc with rfl | rfl <;> decide
    simp only [List.mem_append, not_or]
    exact ⟨⟨houtside.1, Spelling.not_mem_of_blank hgap hblank⟩, houtside.2⟩
  obtain ⟨u, hu⟩ := exists_eq_append_of_stop htext' hstop
  have hcolon : ':' ∈ after := by
    rw [hu]
    exact List.mem_append_left _ (List.mem_append_right _ (by decide))
  exact ht (htext ▸ List.mem_append_right _ hcolon)

variable {lead beforeKey key afterKey : Text} {m : Option Text}

/-- Behind the `$` that the reference starts with there is no other but in the key. -/
theorem exists_reference_text_eq (lead beforeKey key afterKey : Text) (hm : ∀ t ∈ m, '$' ∉ t) :
    ∃ c more, (Spelling.reference lead beforeKey key afterKey m).text =
        '$' :: (['{'] ++ lead ++ Dialect.reference.keyword ++ beforeKey ++
          (key ++ afterKey ++ c :: more)) ∧
      (c = '}' ∨ c = '|') ∧ '$' ∉ c :: more := by
  cases m with
  | none =>
    refine ⟨'}', [], ?_, Or.inl rfl, by decide⟩
    simp [Spelling.text, Spelling.suffix]
  | some t =>
    refine ⟨'|', t ++ ['}'], ?_, Or.inr rfl, ?_⟩
    · simp [Spelling.text, Spelling.suffix]
    · simp [hm t rfl]

variable (hlead : ∀ c ∈ lead, Text.isBlank c) (hbefore : ∀ c ∈ beforeKey, Text.isBlank c)
  (hafter : ∀ c ∈ afterKey, Text.isBlank c) (hkey : IsName [':', '}', '|'] key)
  (hm : ∀ t ∈ m, '}' ∉ t ∧ '$' ∉ t)

include hlead hbefore hafter hkey hm

theorem opens?_reference (rest : Text) :
    Dialect.reference.opens? ((Spelling.reference lead beforeKey key afterKey m).text ++ rest) =
      some (Spelling.reference lead beforeKey key afterKey m).placeholder := by
  apply Dialect.opens?_written
  apply Spelling.written_reference hlead hbefore hafter (hkey.mono (by simp))
  intro t ht
  exact (hm t ht).1

theorem ofLine_reference :
    Template.ofLine .reference (Spelling.reference lead beforeKey key afterKey m).text =
      { holes := [([], (Spelling.reference lead beforeKey key afterKey m).placeholder)],
        tail := [] } := by
  have hopens : Dialect.reference.opens?
      ((Spelling.reference lead beforeKey key afterKey m).placeholder.text ++ []) =
        some (Spelling.reference lead beforeKey key afterKey m).placeholder :=
    opens?_reference hlead hbefore hafter hkey hm []
  have hcut := Template.ofLine_of_opens (Dialect.noStart_nil .reference _) hopens
  rw [List.nil_append, List.append_nil] at hcut
  exact hcut

theorem keysIn_reference :
    keysIn (Spelling.reference lead beforeKey key afterKey m).text = [key] := by
  rw [keysIn, targets_eq_map_holes, ofLine_reference hlead hbefore hafter hkey hm]
  rfl

/-- A key without a colon leaves no room for a secret. -/
theorem not_occursIn_reference : Dialect.secret.occursIn
    (Spelling.reference lead beforeKey key afterKey m).text = false := by
  have hblank : ∀ {c}, Text.isBlank c = false → ∀ gap ∈ [lead, beforeKey, afterKey], c ∉ gap := by
    intro c hc gap hgap
    apply Spelling.not_mem_of_blank _ hc
    simp only [List.mem_cons, List.not_mem_nil, or_false] at hgap
    rcases hgap with rfl | rfl | rfl
    · exact hlead
    · exact hbefore
    · exact hafter
  have hopens := opens?_reference hlead hbefore hafter hkey hm []
  have hother := Dialect.opens?_of_other_dialect (by decide : Dialect.secret ≠ .reference) hopens
  obtain ⟨c, more, hline, hc, hmore⟩ :=
    exists_reference_text_eq lead beforeKey key afterKey fun t ht => (hm t ht).2
  have hcolon : ':' ∉ key ++ afterKey := by
    intro hmem
    rcases List.mem_append.mp hmem with hmem | hmem
    · exact hkey.noStop _ hmem (by decide)
    · exact hblank (by decide) afterKey (by simp) hmem
  have hfront : '$' ∉ ['{'] ++ lead ++ Dialect.reference.keyword ++ beforeKey := by
    have hkeyword : '$' ∉ Dialect.reference.keyword := by decide
    have hgaps := hblank (by decide : Text.isBlank '$' = false)
    simp [hgaps lead, hkeyword, hgaps beforeKey]
  have hnamed := noStart_secret_of_no_colon hcolon hc (more ++ [])
  have hrest := Dialect.noStart_of_no_dollar .secret hmore []
  rw [hline] at hother
  rw [Dialect.not_occursIn_iff, hline, Dialect.noStart_cons]
  exact ⟨hother, Dialect.noStart_append.mpr ⟨Dialect.noStart_of_no_dollar .secret hfront _,
    Dialect.noStart_append.mpr ⟨hnamed, hrest⟩⟩⟩

theorem dialect?_reference :
    dialect? (Spelling.reference lead beforeKey key afterKey m).text = some .reference := by
  have hoccurs : Dialect.reference.occursIn
      (Spelling.reference lead beforeKey key afterKey m).text = true := by
    rw [Dialect.occursIn_iff_not_noStart, ← Dialect.holes_eq_nil_iff,
      ofLine_reference hlead hbefore hafter hkey hm]
    exact List.cons_ne_nil _ _
  have hcomment : isComment (Spelling.reference lead beforeKey key afterKey m).text = false :=
    isComment_append_dollar (rfl : isComment [] = false) _
  rw [dialect?_eq_reference_iff]
  exact ⟨hcomment, not_occursIn_reference hlead hbefore hafter hkey hm, hoccurs⟩

variable [Pattern.Limit]

/-- A line that is nothing but a reference is filled in by looking its key up. -/
theorem processLine_reference :
    processLine (Spelling.reference lead beforeKey key afterKey m).text =
      resolveDeep (.setting key) >>= fun t => Action.ofStep (modified m t) := by
  have hline := dialect?_reference hlead hbefore hafter hkey hm
  rw [processLine_of_reference hline, fillReferences, fillLine,
    ofLine_reference hlead hbefore hafter hkey hm]
  simp only [fillHoles, fillHole, bind_assoc, pure_bind]
  simp only [assemble, List.map_cons, List.map_nil, Template.fill, List.foldlM_cons, List.foldlM_nil,
    List.nil_append, List.append_nil, Spelling.placeholder, Chain.parse_suffix, bind_pure]
  rfl

end Spelled

end Infill
