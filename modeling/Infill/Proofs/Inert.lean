import Infill.Proofs.Filling
import Infill.Proofs.Stream
import Infill.Proofs.Utf8

/-!
# Lines with nothing to fill

A line is inert if it is a comment or if no placeholder of any dialect is in it, as far as it can be
decoded.  Inert lines are copied byte by byte, whether or not they are UTF-8, and nothing is loaded,
asked for or warned of (`processAll_inert`).
-/

namespace Infill

open Infill.Action

/-- A text in which nothing is filled. -/
inductive Inert : Text → Prop
  | comment {gap : Text} (blank : ∀ c ∈ gap, Text.isBlank c) (rest : Text) :
      Inert (gap ++ '#' :: rest)
  | literal {t : Text} (unmatched : ∀ d : Dialect, d.occursIn t = false) : Inert t

section Lines

variable {t : Text}

theorem isComment_iff :
    isComment t = true ↔ ∃ gap rest, (∀ c ∈ gap, Text.isBlank c) ∧ t = gap ++ '#' :: rest := by
  rw [isComment, Text.startsWith, Option.isSome_iff_exists]
  simp only [afterLead?_eq_some_iff, List.singleton_append]
  constructor
  · rintro ⟨rest, hrest⟩
    refine ⟨t.takeWhile Text.isBlank, rest, fun c hc => List.mem_takeWhile_imp hc, ?_⟩
    rw [← hrest, Text.trimStart, List.takeWhile_append_dropWhile]
  · rintro ⟨gap, rest, hgap, rfl⟩
    refine ⟨rest, ?_⟩
    rw [Text.trimStart_append_of_blank hgap, Text.trimStart_cons_of_not_blank (by decide)]

theorem inert_iff : Inert t ↔ dialect? t = none := by
  have hdialect : dialect? t = none ↔ isComment t = true ∨ ∀ d : Dialect, d.occursIn t = false := by
    constructor
    · intro h
      rw [dialect?] at h
      split_ifs at h with hcomment hsecret hreference
      · exact Or.inl hcomment
      · refine Or.inr fun d => ?_
        cases d with
        | secret => exact Bool.not_eq_true _ ▸ hsecret
        | reference => exact Bool.not_eq_true _ ▸ hreference
    · rintro (hcomment | hnone)
      · rw [dialect?, if_pos hcomment]
      · simp [dialect?, hnone]
  rw [hdialect]
  constructor
  · rintro (⟨hblank, rest⟩ | hnone)
    · exact Or.inl (isComment_iff.mpr ⟨_, rest, hblank, rfl⟩)
    · exact Or.inr hnone
  · rintro (hcomment | hnone)
    · obtain ⟨gap, rest, hblank, rfl⟩ := isComment_iff.mp hcomment
      exact .comment hblank rest
    · exact .literal hnone

theorem needsFilling_eq_false_iff : needsFilling t = false ↔ Inert t := by
  rw [inert_iff, needsFilling, dialect?]
  cases isComment t <;> cases Dialect.secret.occursIn t <;>
    cases Dialect.reference.occursIn t <;> simp

variable [Pattern.Limit]

theorem processLine_of_inert (h : Inert t) : processLine t = pure t :=
  processLine_of_no_dialect (inert_iff.mp h)

theorem processRaw_of_inert (number : Nat) {line : Bytes}
    (h : Inert (Utf8.decodeLossy (chompReturn line))) :
    processRaw number line = pure (chompReturn line) := by
  simp only [processRaw]
  cases hdecode : Utf8.decode? (chompReturn line) with
  | some text =>
    rw [Utf8.decodeLossy_of_decode? hdecode] at h
    simp only [processLine_of_inert h, pure_bind, Utf8.encode_of_decode? hdecode]
  | none => simp only [copyRaw, needsFilling_eq_false_iff.mpr h, Bool.false_eq_true, if_false]

theorem processLines_of_inert (number : Nat) {lines : List Bytes}
    (h : ∀ line ∈ lines, Inert (Utf8.decodeLossy (chompReturn line))) :
    processLines number lines = pure (terminated (lines.map chompReturn)) := by
  induction lines generalizing number with
  | nil => rfl
  | cons line lines ih =>
    obtain ⟨hline, h⟩ := List.forall_mem_cons.mp h
    rw [processLines_cons, processRaw_of_inert number hline, pure_bind, ih (number + 1) h, pure_bind]
    simp [terminated]

end Lines

/-- One carriage return at the end of a line is dropped. -/
theorem chompReturn_iff {line out : Bytes} :
    chompReturn line = out ↔
      line = out ++ [carriageReturn] ∨ line = out ∧ line.getLast? ≠ some carriageReturn := by
  rw [chompReturn]
  split
  · next hlast =>
    have hline : line.dropLast ++ [carriageReturn] = line := List.dropLast_append_getLast? _ hlast
    constructor
    · rintro rfl
      exact Or.inl hline.symm
    · rintro (rfl | ⟨-, hnone⟩)
      · exact List.dropLast_concat
      · exact absurd hlast hnone
  · next hlast =>
    constructor
    · rintro rfl
      exact Or.inr ⟨rfl, hlast⟩
    · rintro (rfl | ⟨rfl, -⟩)
      · exact absurd List.getLast?_concat hlast
      · rfl

/-- Lines in which there is nothing to fill are copied, whatever the world is like. -/
theorem processAll_inert [Pattern.Limit] (site : Site) (cache : Cache) :
    (∀ lines rest, (∀ line ∈ lines, lineFeed ∉ line) → lineFeed ∉ rest →
      (∀ line ∈ lines ++ [rest], Inert (Utf8.decodeLossy (chompReturn line))) →
      processAll { bytes := terminated lines ++ rest } site cache =
        { result := .ok (terminated
            ((if rest = [] then lines else lines ++ [rest]).map chompReturn))
          cache
          events := [] }) ∧
    (∀ bytes, ∃ lines rest, bytes = terminated lines ++ rest ∧
      (∀ line ∈ lines, lineFeed ∉ line) ∧ lineFeed ∉ rest) ∧
    (∀ line out, chompReturn line = out ↔
      line = out ++ [carriageReturn] ∨ line = out ∧ line.getLast? ≠ some carriageReturn) ∧
    (∀ number line, Inert (Utf8.decodeLossy (chompReturn line)) →
      processRaw number line site cache =
        { result := .ok (chompReturn line), cache, events := [] }) ∧
    (∀ gap rest, (∀ c ∈ gap, Text.isBlank c) →
      processLine (gap ++ '#' :: rest) site cache =
        { result := .ok (gap ++ '#' :: rest), cache, events := [] }) := by
  refine ⟨?stream, exists_terminated, fun _ _ => chompReturn_iff, ?line, ?comment⟩
  case stream =>
    intro lines rest hlines hrest hinert
    have hread : ∀ line ∈ if rest = [] then lines else lines ++ [rest],
        Inert (Utf8.decodeLossy (chompReturn line)) := by
      intro line hline
      split at hline
      · exact hinert line (List.mem_append_left _ hline)
      · exact hinert line hline
    rw [processAll_of_no_fault rfl, Input.lines_terminated lines rest hlines hrest]
    simp only [Option.isSome_none, Bool.false_eq_true, or_false]
    rw [processLines_of_inert 1 hread, pure_apply]
  case line =>
    intro number line hinert
    rw [processRaw_of_inert number hinert, pure_apply]
  case comment =>
    intro gap rest hblank
    rw [processLine_of_inert (.comment hblank rest), pure_apply]

end Infill
