import Infill.Pattern.Estimate
import Infill.Proofs.Breaking

/-!
# Indentation

To indent a text is to replace the white space in front of each of its lines.  What has been indented
has as many lines as before, so that it can be indented again, and then nothing is left of the first
indentation: of all indentations of a line the last one alone counts (`last_indentation_counts`).

Three things get in the way.  A carriage return at the end of a line is taken for a part of the line
break, a last line that is left empty is no line any more, and an indentation that memory cannot be
addressed for breaks off, also where there is no line to indent
(`empty_text_cannot_be_indented`).
-/

namespace Infill

namespace Text

theorem dropReturn_of_not_mem {t : Text} (h : '\r' ∉ t) : dropReturn t = t := by
  rw [dropReturn]
  split
  · next hlast => exact absurd (List.mem_of_getLast? hlast) h
  · rfl

theorem lines_of_one {t : Text} (h : '\n' ∉ t) (hne : t ≠ []) : lines t = [t] := by
  obtain ⟨c, rest, rfl⟩ := List.exists_cons_of_ne_nil hne
  simp [lines, pieces_of_not_mem h]

/-- Lines that are put together are found again, if the last one is not empty. -/
theorem lines_join {ls : List Text} (hfeed : ∀ line ∈ ls, '\n' ∉ line)
    (hreturn : ∀ line ∈ ls, '\r' ∉ line) (hlast : ∀ last ∈ ls.getLast?, last ≠ []) :
    lines (join ['\n'] ls) = ls := by
  induction ls with
  | nil => rfl
  | cons line ls ih =>
    obtain ⟨hline, hfeed⟩ := List.forall_mem_cons.mp hfeed
    obtain ⟨hline', hreturn⟩ := List.forall_mem_cons.mp hreturn
    cases ls with
    | nil => exact lines_of_one hline (hlast line rfl)
    | cons next ls =>
      rw [List.getLast?_cons_cons] at hlast
      rw [join, List.append_assoc, List.singleton_append, lines_append_feed hline,
        dropReturn_of_not_mem hline', ih hfeed hreturn hlast]
      exact List.cons_ne_nil _ _

/-- What stands in texts that are put together stands between them or in one of them. -/
theorem mem_of_mem_join {c : Char} {between : Text} {ls : List Text} (h : c ∈ join between ls) :
    c ∈ between ∨ ∃ line ∈ ls, c ∈ line := by
  induction ls with
  | nil => exact absurd h List.not_mem_nil
  | cons line ls ih =>
    cases ls with
    | nil => exact Or.inr ⟨line, List.mem_cons_self, h⟩
    | cons next ls =>
      rw [join, List.mem_append, List.mem_append] at h
      · rcases h with (h | h) | h
        · exact Or.inr ⟨line, List.mem_cons_self, h⟩
        · exact Or.inl h
        · rcases ih h with h | ⟨line', hline', hc⟩
          · exact Or.inl h
          · exact Or.inr ⟨line', List.mem_cons_of_mem _ hline', hc⟩
      · exact List.cons_ne_nil _ _

/-- Texts that are put together end as the last one does. -/
theorem getLast?_join {between last : Text} {ls : List Text} (h : ls.getLast? = some last)
    (hne : last ≠ []) : (join between ls).getLast? = last.getLast? := by
  induction ls with
  | nil => contradiction
  | cons line ls ih =>
    cases ls with
    | nil => exact congrArg List.getLast? (Option.some.inj h)
    | cons next ls =>
      rw [List.getLast?_cons_cons] at h
      rw [join, List.getLast?_append, ih h]
      · exact Option.or_of_isSome (List.getLast?_isSome.mpr hne)
      · exact List.cons_ne_nil _ _

theorem trimStart_trimStart (t : Text) : trimStart (trimStart t) = trimStart t :=
  List.dropWhile_idempotent isBlank t

end Text

/-- The line with `width` spaces in the place of the white space in front of it. -/
def indented (width : Nat) (line : Text) : Text := List.replicate width ' ' ++ Text.trimStart line

section Lines

variable {t line : Text} {w : Nat}

theorem trimStart_indented (w : Nat) (line : Text) :
    Text.trimStart (indented w line) = Text.trimStart line := by
  rw [indented, Text.trimStart_append_of_blank, Text.trimStart_trimStart]
  intro c hc
  rw [(List.mem_replicate.mp hc).2]
  rfl

theorem mem_of_mem_indented {c : Char} (h : c ∈ indented w line) : c = ' ' ∨ c ∈ line := by
  rcases List.mem_append.mp h with h | h
  · exact Or.inl (List.mem_replicate.mp h).2
  · exact Or.inr (List.dropWhile_subset _ h)

/-- Nothing but spaces comes into lines that are indented. -/
theorem not_mem_of_mem_map_indented {c : Char} {ls : List Text} (hc : c ≠ ' ')
    (h : ∀ line ∈ ls, c ∉ line) : ∀ line ∈ ls.map (indented w), c ∉ line := by
  intro line hline hmem
  obtain ⟨source, hsource, rfl⟩ := List.mem_map.mp hline
  rcases mem_of_mem_indented hmem with hspace | hmem
  · exact hc hspace
  · exact h source hsource hmem

/-- A line is left empty if there is nothing but white space in it and it gets no spaces. -/
theorem indented_ne_nil (h : 1 ≤ w ∨ ∃ c ∈ line, Text.isBlank c = false) : indented w line ≠ [] := by
  rw [indented, Ne, List.append_eq_nil_iff, List.replicate_eq_nil_iff, Text.trimStart_eq_nil_iff]
  rintro ⟨hw, hblank⟩
  rcases h with h | ⟨c, hc, hwritten⟩
  · omega
  · simp [hblank c hc] at hwritten

theorem indentLines_of_le (h : w ≤ Text.longest) (t : Text) :
    indentLines t w = .ok (t.reindent w) := if_pos h

theorem indentLines_of_lt (h : Text.longest < w) (t : Text) :
    indentLines t w = .error (.spaces w) := if_neg (Nat.not_le_of_lt h)

theorem reindent_eq (t : Text) (w : Nat) :
    t.reindent w = Text.join ['\n'] ((Text.lines t).map (indented w)) := rfl

theorem return_not_mem_lines (ht : '\r' ∉ t) : ∀ line ∈ Text.lines t, '\r' ∉ line :=
  fun _ hline h => ht (Text.mem_of_mem_lines hline h)

theorem return_not_mem_reindent (ht : '\r' ∉ t) (w : Nat) : '\r' ∉ t.reindent w := by
  intro h
  rw [reindent_eq] at h
  rcases Text.mem_of_mem_join h with h | ⟨line, hline, h⟩
  · exact absurd h (by decide)
  · exact not_mem_of_mem_map_indented (by decide) (return_not_mem_lines ht) line hline h

/-- The lines of a text that has been indented are its lines, indented, if the last one is not left
empty. -/
theorem lines_reindent (ht : '\r' ∉ t)
    (hlast : 1 ≤ w ∨ ∀ last ∈ (Text.lines t).getLast?, ∃ c ∈ last, Text.isBlank c = false) :
    Text.lines (t.reindent w) = (Text.lines t).map (indented w) := by
  apply Text.lines_join
  · exact not_mem_of_mem_map_indented (by decide) fun _ => Text.lineFeed_not_mem_of_mem_lines
  · exact not_mem_of_mem_map_indented (by decide) (return_not_mem_lines ht)
  · intro last hmem
    rw [List.getLast?_map] at hmem
    obtain ⟨source, hsource, rfl⟩ := Option.map_eq_some_iff.mp hmem
    exact indented_ne_nil (hlast.imp_right fun h => h source hsource)

/-- A text that has been indented does not end in a line break. -/
theorem getLast?_reindent_ne (hw : 1 ≤ w) : (t.reindent w).getLast? ≠ some '\n' := by
  intro h
  rw [reindent_eq] at h
  cases hlast : (Text.lines t).getLast? with
  | none =>
    rw [List.getLast?_eq_none_iff.mp hlast] at h
    contradiction
  | some source =>
    have hmap : ((Text.lines t).map (indented w)).getLast? = some (indented w source) := by
      rw [List.getLast?_map, hlast, Option.map_some]
    rw [Text.getLast?_join hmap (indented_ne_nil (Or.inl hw))] at h
    rcases mem_of_mem_indented (List.mem_of_getLast? h) with h | h
    · exact absurd h (by decide)
    · exact Text.lineFeed_not_mem_of_mem_lines (List.mem_of_getLast? hlast) h

/-- Nothing is left of an indentation once the text is indented again. -/
theorem reindent_reindent (ht : '\r' ∉ t)
    (hlast : 1 ≤ w ∨ ∀ last ∈ (Text.lines t).getLast?, ∃ c ∈ last, Text.isBlank c = false)
    (w' : Nat) : (t.reindent w).reindent w' = t.reindent w' := by
  have hagain : indented w' ∘ indented w = indented w' := by
    funext line
    rw [Function.comp_apply, indented, trimStart_indented, ← indented]
  rw [reindent_eq, lines_reindent ht hlast, List.map_map, hagain, ← reindent_eq]

/-- Nothing is left of an indentation that fits once the text is indented again. -/
theorem indentLines_bind_indentLines (ht : '\r' ∉ t) (hfits : w ≤ Text.longest)
    (hlast : 1 ≤ w ∨ ∀ last ∈ (Text.lines t).getLast?, ∃ c ∈ last, Text.isBlank c = false)
    (w' : Nat) : (indentLines t w >>= fun u => indentLines u w') = indentLines t w' := by
  rw [indentLines_of_le hfits]
  show indentLines (t.reindent w) w' = _
  rw [indentLines, reindent_reindent ht hlast, ← indentLines]

/-- Of indentations in a row the last one counts, if those before it fit. -/
theorem foldlM_indentLines (ht : '\r' ∉ t) {widths : List Nat}
    (hwidths : ∀ v ∈ widths, 1 ≤ v ∧ v ≤ Text.longest) (w : Nat) :
    ((widths ++ [w]).map Modifier.indent).foldlM Modifier.applyLine t = indentLines t w := by
  induction widths generalizing t with
  | nil => exact bind_pure (indentLines t w)
  | cons v widths ih =>
    obtain ⟨⟨hv, hfits⟩, hwidths⟩ := List.forall_mem_cons.mp hwidths
    have hrest := fun u (hu : '\r' ∉ u) => ih hu hwidths
    rw [List.cons_append, List.map_cons, List.foldlM_cons, Modifier.applyLine,
      ← indentLines_bind_indentLines ht hfits (Or.inl hv) w, indentLines_of_le hfits]
    exact hrest _ (return_not_mem_reindent ht v)

/-- Of indentations in a row the first one that does not fit breaks off. -/
theorem findSome?_breach?_indent {before : List Nat} (h : ∀ u ∈ before, u ≤ Text.longest)
    {v : Nat} (hv : Text.longest < v) (after : List Nat) :
    ((before ++ v :: after).map Modifier.indent).findSome? Modifier.breach? = some (.spaces v) := by
  induction before with
  | nil =>
    rw [List.nil_append, List.map_cons, List.findSome?_cons, Modifier.breach?,
      if_neg (Nat.not_le_of_lt hv)]
  | cons u before ih =>
    obtain ⟨hu, h⟩ := List.forall_mem_cons.mp h
    rw [List.cons_append, List.map_cons, List.findSome?_cons, Modifier.breach?, if_pos hu]
    exact ih h

end Lines

section Indentations

variable [Pattern.Limit]

/-- An indentation that is written behind a bar is read back. -/
theorem parse_indentation (width : Nat) (hfits : width < Nat.pow 2 64) :
    Chain.parse ("| indent".toList ++ Text.decimal width) =
      { parsed := [.recognized (.indent width)] } := by
  have hblank : ∀ c ∈ [' '], Text.isBlank c := List.forall_mem_singleton.mpr rfl
  have hnone : ∀ c ∈ ([] : Text), Text.isBlank c := fun _ hc => absurd hc List.not_mem_nil
  have hslot := SlotText.token hblank hnone (.indent 0 hfits)
  have hparse := (ChainText.last hslot).cons_bar.parse_eq
  rw [List.append_nil] at hparse
  exact congrArg Chain.mk hparse

/-- The smallest width that memory cannot be addressed for is read as any other one. -/
theorem parse_wide_indentation :
    Chain.parse "| indent9223372036854775808".toList =
      { parsed := [.recognized (.indent 9223372036854775808)] } := by
  have hdecimal : Text.decimal 9223372036854775808 = "9223372036854775808".toList := by
    decide +kernel
  have hread := parse_indentation 9223372036854775808 (by decide)
  rw [hdecimal] at hread
  exact hread

/-- A placeholder with such an indentation breaks its line off. -/
theorem breach?_wide_indentation {t : Template} {p : Placeholder} (h : t.placeholders = [p])
    (hmodifiers : p.modifiers = "| indent9223372036854775808".toList) :
    t.breach? = some (.spaces 9223372036854775808) := by
  simp only [Template.breach?, Template.lineModifiers, h, List.flatMap_cons, List.flatMap_nil,
    hmodifiers, parse_wide_indentation]
  exact findSome?_breach?_indent (List.forall_mem_nil _) (by decide) []

/-- A line that is nothing but an empty setting, with an indentation that is too wide, breaks off. -/
theorem breaksOff_wide_indentation {site : Site} {cache : Cache}
    (h : (Action.settings site cache).result = .ok { entries := [(['K'], [])] }) :
    BreaksOff site cache "$\x7bref:K | indent9223372036854775808\x7d".toList
      (.spaces 9223372036854775808) := by
  have hline : Template.ofLine .reference "$\x7bref:K | indent9223372036854775808\x7d".toList =
      { holes := [([], { target := .setting ['K'],
                         modifiers := "| indent9223372036854775808".toList,
                         text := "$\x7bref:K | indent9223372036854775808\x7d".toList })],
        tail := [] } := by
    decide +kernel
  refine .line (d := .reference) (by decide +kernel) ⟨⟨[[]], ?_⟩, ?_⟩
  · rw [targets_eq_map_holes, hline]
    exact .cons (.plain h (by decide)) .nil
  · rw [hline]
    exact breach?_wide_indentation rfl rfl

/-- A text that is indented keeps its lines but for the white space in front of them, and indenting it
again leaves nothing of the first indentation, unless memory cannot be addressed for one of them: then
there is no text.  So a line whose placeholders indent it comes to what the last indentation alone makes
of it, or it breaks off on the first indentation that is too wide. -/
theorem last_indentation_counts (site : Site) (cache : Cache) :
    (∀ t w, '\r' ∉ t → 1 ≤ w → w ≤ Text.longest →
      ∃ u, indentLines t w = .ok u ∧
        Text.lines u =
          (Text.lines t).map (fun line => List.replicate w ' ' ++ Text.trimStart line) ∧
        (Text.lines u).length = (Text.lines t).length ∧ u.getLast? ≠ some '\n') ∧
    (∀ t w, Text.longest < w → indentLines t w = .error (.spaces w)) ∧
    (∀ t w w', '\r' ∉ t → w ≤ Text.longest →
      (1 ≤ w ∨ ∀ last ∈ (Text.lines t).getLast?, ∃ c ∈ last, Text.isBlank c = false) →
      (indentLines t w >>= fun u => indentLines u w') = indentLines t w') ∧
    (∀ d line values widths w, dialect? line = some d →
      List.Forall₂ (Value site cache) (d.targets line) values →
      (Template.ofLine d line).lineModifiers = (widths ++ [w]).map .indent →
      (∀ v ∈ widths, 1 ≤ v ∧ v ≤ Text.longest) →
      '\r' ∉ (Template.ofLine d line).splice values →
      (processLine line site cache).result =
        (indentLines ((Template.ofLine d line).splice values) w).mapError .breach) ∧
    (∀ d line values before v after, dialect? line = some d →
      List.Forall₂ (Value site cache) (d.targets line) values →
      (Template.ofLine d line).lineModifiers = (before ++ v :: after).map .indent →
      (∀ u ∈ before, u ≤ Text.longest) → Text.longest < v →
      (processLine line site cache).result = .error (.breach (.spaces v))) := by
  refine ⟨?lines, fun t w h => indentLines_of_lt h t, ?again, ?last, ?wide⟩
  case lines =>
    intro t w ht hw hfits
    have hlines := lines_reindent ht (Or.inl hw)
    exact ⟨_, indentLines_of_le hfits t, hlines, by rw [hlines, List.length_map],
      getLast?_reindent_ne hw⟩
  case again => exact fun t w w' ht hfits hlast => indentLines_bind_indentLines ht hfits hlast w'
  case last =>
    intro d line values widths w hdialect hvalues hmodifiers hwidths hreturn
    rw [processLine_of_values hdialect hvalues, Template.render_eq _ (length_of_values hvalues),
      hmodifiers, foldlM_indentLines hreturn hwidths]
  case wide =>
    intro d line values before v after hdialect hvalues hmodifiers hbefore hv
    refine processLine_eq_breach_iff.mpr (.line hdialect ⟨⟨values, hvalues⟩, ?_⟩)
    rw [Template.breach?, hmodifiers]
    exact findSome?_breach?_indent hbefore hv after

end Indentations

open scoped Pattern.Estimate in
/-- Of the indentations of two placeholders the second one counts, though the first one is wider. -/
theorem last_indentation_counts_two_placeholders :
    (indentLines "p\n\n  q".toList 3 >>= fun u => indentLines u 0) =
        indentLines "p\n\n  q".toList 0 ∧
      (processLine "  $\x7bref:K | indent3\x7d, $\x7bref:K | indent1\x7d".toList
        { world := { disk := { wording := fun _ _ _ => [] }, environment := [],
                     answer := fun _ => .error [] },
          settingsPath := { text := [] } }
        { settings := some { entries := [(['K'], "p\n  q".toList)] } }).result =
        .ok " p\n q, p\n q".toList := by
  let site : Site :=
    { world := { disk := { wording := fun _ _ _ => [] }, environment := [],
                 answer := fun _ => .error [] },
      settingsPath := { text := [] } }
  let cache : Cache := { settings := some { entries := [(['K'], "p\n  q".toList)] } }
  let line : Text := "  $\x7bref:K | indent3\x7d, $\x7bref:K | indent1\x7d".toList
  have hline : Template.ofLine .reference line =
      { holes :=
          [("  ".toList, { target := .setting ['K'], modifiers := "| indent3".toList,
                           text := "$\x7bref:K | indent3\x7d".toList }),
           (", ".toList, { target := .setting ['K'], modifiers := "| indent1".toList,
                           text := "$\x7bref:K | indent1\x7d".toList })],
        tail := [] } := rfl
  have hthree : Chain.parse "| indent3".toList = { parsed := [.recognized (.indent 3)] } :=
    parse_indentation 3 (by decide)
  have hone : Chain.parse "| indent1".toList = { parsed := [.recognized (.indent 1)] } :=
    parse_indentation 1 (by decide)
  have hmodifiers :
      (Template.ofLine .reference line).lineModifiers = ([3] ++ [1]).map .indent := by
    rw [hline]
    simp only [Template.lineModifiers, Template.placeholders, List.map_cons, List.map_nil,
      List.flatMap_cons, List.flatMap_nil, hthree, hone]
    rfl
  have hsplice : (Template.ofLine .reference line).splice ["p\n  q".toList, "p\n  q".toList] =
      "  p\n  q, p\n  q".toList := by
    rw [hline]
    simp only [Template.splice, List.zipWith_cons_cons, Placeholder.put, hthree, hone]
    rfl
  have hvalue : Value site cache (.setting ['K']) "p\n  q".toList :=
    .plain (s := { entries := [(['K'], "p\n  q".toList)] }) rfl (by decide)
  have hvalues : List.Forall₂ (Value site cache) (Dialect.reference.targets line)
      ["p\n  q".toList, "p\n  q".toList] := by
    rw [targets_eq_map_holes, hline]
    exact .cons hvalue (.cons hvalue .nil)
  obtain ⟨-, -, hagain, hlast, -⟩ := last_indentation_counts site cache
  refine ⟨hagain "p\n\n  q".toList 3 0 (by decide) (by decide) (Or.inl (by decide)), ?_⟩
  refine (hlast .reference line _ [3] 1 (by decide +kernel) hvalues hmodifiers (by decide) ?_).trans
    ?_
  · rw [hsplice]
    decide
  · rw [hsplice, indentLines_of_le (by decide)]
    decide +kernel

open scoped Pattern.Estimate in
/-- A width that is read can be out of bounds for a text without lines.  A narrower indentation behind
it does not count then, and the line with it breaks off. -/
theorem empty_text_cannot_be_indented :
    (Chain.parse "| indent9223372036854775808".toList).modifiers = [.indent 9223372036854775808] ∧
      Text.lines [] = [] ∧ (¬∃ u, indentLines [] 9223372036854775808 = .ok u) ∧
      (indentLines [] 9223372036854775808 >>= fun u => indentLines u 1) ≠ indentLines [] 1 ∧
      (processLine "$\x7bref:K | indent9223372036854775808\x7d".toList
        { world := { disk := { wording := fun _ _ _ => [] }, environment := [],
                     answer := fun _ => .error [] },
          settingsPath := { text := [] } }
        { settings := some { entries := [(['K'], [])] } }).result =
        .error (.breach (.spaces 9223372036854775808)) := by
  have hwide : indentLines [] 9223372036854775808 = .error (.spaces 9223372036854775808) :=
    indentLines_of_lt (by decide) []
  refine ⟨by rw [parse_wide_indentation]; rfl, rfl, ?_, ?_,
    processLine_eq_breach_iff.mpr (breaksOff_wide_indentation rfl)⟩
  · rintro ⟨u, hu⟩
    rw [hwide] at hu
    contradiction
  · rw [hwide, indentLines_of_le (by decide)]
    exact (nomatch ·)

end Infill
