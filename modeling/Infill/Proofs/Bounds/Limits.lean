import Infill.Pattern.Estimate
import Infill.Proofs.Bounds.Line
import Infill.Proofs.Modifier.Indentation

/-!
# What can be out of bounds

Every part of a line that is cut out in between placeholders, and the rest of it, is there.  So of all
steps in filling a line an indentation is the only one that can be out of bounds, and it is one that
has been read as such (`processLine_within_bounds`).
-/

namespace Infill

section Cuts

variable {d : Dialect} {line : Text} {before after : List Occurrence}

/-- The byte up to which a line has been used when these placeholders have been filled. -/
def usedUpTo (before : List Occurrence) : Nat := (before.getLast?.map Occurrence.stop).getD 0

theorem boundary_usedUpTo (h : d.find line = before ++ after) :
    Utf8.IsBoundary line (usedUpTo before) := by
  rw [usedUpTo]
  cases hlast : before.getLast? with
  | none => exact ⟨[], line, rfl, rfl⟩
  | some o =>
    have hmem : o ∈ d.find line := by
      rw [h]
      exact List.mem_append_left _ (List.mem_of_getLast? hlast)
    obtain ⟨front, back, hline, -, hstop⟩ := ((referenceScan_find d line).stands o hmem).2.place
    refine ⟨front ++ o.placeholder.text, back, hline, ?_⟩
    rw [Utf8.size_append]
    exact hstop

/-- The text in front of a placeholder is there: it starts where the placeholder before it ends. -/
theorem exists_part_before {o : Occurrence} (h : d.find line = before ++ o :: after) :
    usedUpTo before ≤ o.start ∧ o.start ≤ Utf8.size line ∧
      ∃ literal, Utf8.part line (usedUpTo before) o.start = .ok literal := by
  have hscan := referenceScan_find d line
  have hmem : o ∈ d.find line := by
    rw [h]
    exact List.mem_append_right _ List.mem_cons_self
  obtain ⟨front, back, hline, hstart, -⟩ := (hscan.stands o hmem).2.place
  rw [List.append_assoc] at hline
  have hboundary : Utf8.IsBoundary line o.start := ⟨front, _, hline, hstart⟩
  have hle : usedUpTo before ≤ o.start := by
    rw [usedUpTo]
    cases hlast : before.getLast? with
    | none => exact Nat.zero_le _
    | some last =>
      have hpairwise := hscan.pairwise
      rw [h] at hpairwise
      exact (List.pairwise_append.mp hpairwise).2.2 last (List.mem_of_getLast? hlast) o
        List.mem_cons_self
  exact ⟨hle, hboundary.le_size, Utf8.exists_part (boundary_usedUpTo h) hboundary hle⟩

/-- The text behind the last placeholder is there. -/
theorem exists_part_after (h : d.find line = before ++ after) :
    usedUpTo before ≤ Utf8.size line ∧
      ∃ tail, Utf8.part line (usedUpTo before) (Utf8.size line) = .ok tail := by
  have hboundary := boundary_usedUpTo h
  have hend : Utf8.IsBoundary line (Utf8.size line) := ⟨line, [], (List.append_nil line).symm, rfl⟩
  exact ⟨hboundary.le_size, Utf8.exists_part hboundary hend hboundary.le_size⟩

end Cuts

section Widths

/-- Filling a line by positions comes to what filling it comes to, and it breaks off exactly if it reaches
an indentation that memory cannot be addressed for.  There are such, since a width is read if it is
below 2^64.  Cutting the line and reading placeholders and modifiers never break off. -/
theorem processLine_within_bounds [Pattern.Limit] (site : Site) (cache : Cache) (line : Text) :
    Guarded.processLine line = processLine line ∧
    (∀ b, (Guarded.processLine line site cache).result = .error (.breach b) ↔
      BreaksOff site cache line b) ∧
    (∀ b, BreaksOff site cache line b →
      ∃ width, b = .spaces width ∧ Text.longest < width ∧ width < ParsedModifier.widthLimit) ∧
    (∀ d : Dialect, d.findWithin line = .ok (d.find line)) ∧
    (∀ (d : Dialect) before o after, d.find line = before ++ o :: after →
      usedUpTo before ≤ o.start ∧ o.start ≤ Utf8.size line ∧
        ∃ literal, Utf8.part line (usedUpTo before) o.start = .ok literal) ∧
    (∀ (d : Dialect) before after, d.find line = before ++ after →
      usedUpTo before ≤ Utf8.size line ∧
        ∃ tail, Utf8.part line (usedUpTo before) (Utf8.size line) = .ok tail) ∧
    (∀ raw, Chain.parseWithin raw = .ok (Chain.parse raw)) ∧
    (∀ zeros width token,
      token = "indent".toList ++ (List.replicate zeros '0' ++ Text.decimal width) →
      ParsedModifier.ofToken token =
        if width < ParsedModifier.widthLimit then .recognized (.indent width)
        else .ignored token .widthOutOfRange) := by
  refine ⟨Guarded.processLine_eq line, ?breaks, fun b => BreaksOff.width,
    fun d => d.findWithin_eq line, fun d before o after => exists_part_before,
    fun d before after => exists_part_after, Chain.parseWithin_eq, ?token⟩
  case breaks =>
    intro b
    rw [Guarded.processLine_eq]
    exact processLine_eq_breach_iff
  case token =>
    rintro zeros width token rfl
    exact ofToken_width zeros width

end Widths

open scoped Pattern.Estimate in
/-- A character of two bytes, an indentation that fits, and the text between two placeholders. -/
theorem processLine_within_bounds_two_placeholders :
    (Guarded.processLine "é $\x7bref:K | indent2\x7d, $\x7bref:K\x7d".toList
        { world := { disk := { wording := fun _ _ _ => [] }, environment := [],
                     answer := fun _ => .error [] },
          settingsPath := { text := [] } }
        { settings := some { entries := [(['K'], ['p'])] } }).result =
        .ok "  é p, p".toList ∧
      ∃ literal,
        Utf8.part "é $\x7bref:K | indent2\x7d, $\x7bref:K\x7d".toList 21 23 = .ok literal := by
  let site : Site :=
    { world := { disk := { wording := fun _ _ _ => [] }, environment := [],
                 answer := fun _ => .error [] },
      settingsPath := { text := [] } }
  let cache : Cache := { settings := some { entries := [(['K'], ['p'])] } }
  let line : Text := "é $\x7bref:K | indent2\x7d, $\x7bref:K\x7d".toList
  have hfind : Dialect.reference.find line =
      [{ placeholder := { target := .setting ['K'], modifiers := "| indent2".toList,
                          text := "$\x7bref:K | indent2\x7d".toList }, start := 3, stop := 21 }] ++
        { placeholder := { target := .setting ['K'], modifiers := [],
                           text := "$\x7bref:K\x7d".toList }, start := 23, stop := 31 } :: [] := by
    decide +kernel
  have hline : Template.ofLine .reference line =
      { holes :=
          [("é ".toList, { target := .setting ['K'], modifiers := "| indent2".toList,
                           text := "$\x7bref:K | indent2\x7d".toList }),
           (", ".toList, { target := .setting ['K'], modifiers := [],
                           text := "$\x7bref:K\x7d".toList })],
        tail := [] } := by
    decide +kernel
  have hparse : Chain.parse "| indent2".toList = { parsed := [.recognized (.indent 2)] } :=
    parse_indentation 2 (by decide)
  have hmodifiers : (Template.ofLine .reference line).lineModifiers = [.indent 2] := by
    rw [hline]
    simp only [Template.lineModifiers, Template.placeholders, List.map_cons, List.map_nil,
      List.flatMap_cons, List.flatMap_nil, hparse]
    rfl
  have hsplice : (Template.ofLine .reference line).splice [['p'], ['p']] = "é p, p".toList := by
    rw [hline]
    simp only [Template.splice, List.zipWith_cons_cons, Placeholder.put, hparse]
    rfl
  have hvalue : Value site cache (.setting ['K']) ['p'] :=
    .plain (s := { entries := [(['K'], ['p'])] }) rfl (by decide)
  have hvalues : List.Forall₂ (Value site cache) (Dialect.reference.targets line) [['p'], ['p']] := by
    rw [targets_eq_map_holes, hline]
    exact .cons hvalue (.cons hvalue .nil)
  obtain ⟨hsame, -, -, -, hcuts, -⟩ := processLine_within_bounds site cache line
  refine ⟨?_, (hcuts .reference _ _ _ hfind).2.2⟩
  rw [hsame, processLine_of_values (d := .reference) (by decide +kernel) hvalues,
    Template.render_eq _ rfl, hmodifiers, hsplice]
  show (indentLines "é p, p".toList 2).mapError .breach = _
  rw [indentLines_of_le (by decide)]
  decide +kernel

open scoped Pattern.Estimate in
/-- The smallest width that is out of bounds is read as an indentation.  It breaks filling off also where
there is no line to indent, and in a setting. -/
theorem wide_indentation_breaks_off :
    Text.longest < 9223372036854775808 ∧
    ParsedModifier.ofToken "indent9223372036854775808".toList =
      .recognized (.indent 9223372036854775808) ∧
    (Chain.parse "| indent9223372036854775808".toList).applyLine [] =
      .error (.spaces 9223372036854775808) ∧
    (Guarded.processLine "$\x7bref:K | indent9223372036854775808\x7d".toList
      { world := { disk := { wording := fun _ _ _ => [] }, environment := [],
                   answer := fun _ => .error [] },
        settingsPath := { text := [] } }
      { settings := some { entries := [(['K'], [])] } }).result =
        .error (.breach (.spaces 9223372036854775808)) ∧
    (Guarded.processLine "$\x7bref:K\x7d".toList
      { world := { disk := { wording := fun _ _ _ => [] }, environment := [],
                   answer := fun _ => .ok { status := 404, body := [] } },
        settingsPath := { text := [] } }
      { session := some { host := "http://[::1]".toList, token := ['t'] },
        settings := some
          { entries :=
              [(['K'], "$\x7bsecret:p@k | indent9223372036854775808\x7d".toList)] } }).result =
        .error (.breach (.spaces 9223372036854775808)) := by
  have htoken : ParsedModifier.ofToken "indent9223372036854775808".toList =
      .recognized (.indent 9223372036854775808) := by
    have hdecimal : Text.decimal 9223372036854775808 = "9223372036854775808".toList := by
      decide +kernel
    have hread := ofToken_indent 0 (by decide : 9223372036854775808 < Nat.pow 2 64)
    rw [hdecimal] at hread
    exact hread
  have hsecret : Template.ofLine .secret "$\x7bsecret:p@k | indent9223372036854775808\x7d".toList =
      { holes := [([], { target := .secret ['p'] ['k'],
                         modifiers := "| indent9223372036854775808".toList,
                         text := "$\x7bsecret:p@k | indent9223372036854775808\x7d".toList })],
        tail := [] } := by
    decide +kernel
  rw [Guarded.processLine_eq, Guarded.processLine_eq]
  refine ⟨by decide, htoken, ?empty, processLine_eq_breach_iff.mpr (breaksOff_wide_indentation rfl),
    processLine_eq_breach_iff.mpr ?setting⟩
  case empty =>
    rw [Chain.applyLine_eq_foldlM, Modifier.foldlM_applyLine_eq_error_iff, parse_wide_indentation]
    exact findSome?_breach?_indent (List.forall_mem_nil _) (by decide) []
  case setting =>
    let site : Site :=
      { world := { disk := { wording := fun _ _ _ => [] }, environment := [],
                   answer := fun _ => .ok { status := 404, body := [] } },
        settingsPath := { text := [] } }
    let held : Text := "$\x7bsecret:p@k | indent9223372036854775808\x7d".toList
    let cache : Cache :=
      { session := some { host := "http://[::1]".toList, token := ['t'] },
        settings := some { entries := [(['K'], held)] } }
    have hmissing : Value site cache (.secret ['p'] ['k']) [] := value_iff.mpr (by decide +kernel)
    have hheld : Overflows site cache .secret held (.spaces 9223372036854775808) := by
      refine ⟨⟨[[]], ?_⟩, ?_⟩
      · rw [targets_eq_map_holes, hsecret]
        exact .cons hmissing .nil
      · rw [hsecret]
        exact breach?_wide_indentation rfl rfl
    exact .setting (d := .reference) (by decide +kernel)
      ⟨[], .setting ['K'], [], [], by decide +kernel, .nil, _, rfl, hheld⟩

end Infill
