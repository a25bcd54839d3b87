import Infill.Proofs.Failure
import Infill.Proofs.Inert

/-!
# Lines that are not UTF-8

A placeholder is found in a line that is not UTF-8 whatever bytes stand around it, and such a line
is never copied unless it is a comment (`processAll_undecodable`).  The check of these lines asks for
nothing, and to a line that is UTF-8 it would object exactly if something is filled in there.
-/

namespace Infill

open Infill.Action

/-- The failure of a line that is not UTF-8. -/
def Failure.undecodable (number : Nat) : Failure :=
  .invalidInput ("line ".toList ++ Text.decimal number ++
    " is not valid UTF-8 and contains a placeholder".toList)

/-- The line is not UTF-8. -/
def Undecodable (raw : Bytes) : Prop := ∀ text, raw ≠ Utf8.encode text

/-- The bytes of a whole placeholder stand in the line. -/
inductive HoldsPlaceholder : Bytes → Prop
  | intro (d : Dialect) {p : Placeholder} (opens : d.opens? p.text = some p)
      (before after : Bytes) : HoldsPlaceholder (before ++ Utf8.encode p.text ++ after)

/-- The line starts with the bytes of white space and `#`. -/
inductive StartsComment : Bytes → Prop
  | intro {gap : Text} (blank : ∀ c ∈ gap, Text.isBlank c) (rest : Bytes) :
      StartsComment (Utf8.encode (gap ++ ['#']) ++ rest)

/-- The values that are put in place of the placeholders of a dialect. -/
def Dialect.resolve [Pattern.Limit] : Dialect → Target → Action Text
  | secret => resolvePlain
  | reference => resolveDeep

/-- To fill the line is to put values in place of the placeholders of the dialect in it, of which
there are some. -/
structure Substitutes [Pattern.Limit] (d : Dialect) (text : Text) : Prop where
  found : d.find text ≠ []
  filled : ∀ site cache, (processLine text site cache).result =
    (fillLine d d.resolve text site cache).result

section Checks

variable {raw : Bytes} {n m : Nat}

theorem undecodable_injective (h : Failure.undecodable n = Failure.undecodable m) : n = m := by
  rw [Failure.undecodable, Failure.undecodable, Failure.invalidInput.injEq, List.append_left_inj,
    List.append_right_inj] at h
  exact Text.decimal_injective h

theorem undecodable_iff : Undecodable raw ↔ Utf8.decode? raw = none :=
  Utf8.decode?_eq_none_iff.symm

/-- No fault is taken for white space or for the start of a comment. -/
theorem isComment_decodeLossy_iff : isComment (Utf8.decodeLossy raw) = true ↔ StartsComment raw := by
  have hfault : ∀ gap : Text, (∀ c ∈ gap, Text.isBlank c) → '\uFFFD' ∉ gap ++ ['#'] := by
    intro gap hgap hmem
    rcases List.mem_append.mp hmem with hmem | hmem
    · exact absurd (hgap _ hmem) (by decide)
    · exact absurd (List.mem_singleton.mp hmem) (by decide)
  rw [isComment_iff]
  constructor
  · rintro ⟨gap, rest, hgap, hlossy⟩
    have hlead : Utf8.decodeLossy raw = (gap ++ ['#']) ++ rest := by rw [hlossy]; simp
    obtain ⟨rest', rfl⟩ := (Utf8.decodeLossy_eq_append_iff (hfault gap hgap)).mp ⟨rest, hlead⟩
    exact .intro hgap rest'
  · rintro ⟨hgap, rest⟩
    obtain ⟨more, hmore⟩ := (Utf8.decodeLossy_eq_append_iff (hfault _ hgap)).mpr ⟨rest, rfl⟩
    exact ⟨_, more, hgap, by rw [hmore]; simp⟩

theorem occursIn_append_of_opens {d : Dialect} {p : Placeholder} (h : d.opens? p.text = some p)
    (before after : Text) : d.occursIn (before ++ p.text ++ after) := by
  obtain ⟨rest, hrest, hwritten⟩ := Dialect.opens?_eq_some_iff.mp h
  rw [Dialect.occursIn_iff_not_noStart]
  intro hnone
  have hopens := hnone before (p.text ++ after) (by rw [List.append_assoc])
    (by simp [hwritten.ne_nil])
  rw [List.append_nil, Dialect.opens?_written hwritten] at hopens
  contradiction

/-- Decoding keeps a placeholder, whatever bytes stand around it. -/
theorem HoldsPlaceholder.occursIn (h : HoldsPlaceholder raw) :
    ∃ d : Dialect, d.occursIn (Utf8.decodeLossy raw) := by
  obtain ⟨d, opens, before, after⟩ := h
  obtain ⟨rest, -, hwritten⟩ := Dialect.opens?_eq_some_iff.mp opens
  obtain ⟨more, htext⟩ := hwritten.exists_cons
  refine ⟨d, ?_⟩
  have hlossy := Utf8.decodeLossy_around (by decide : '$'.toNat < 0x80) more before after
  rw [← htext] at hlossy
  rw [hlossy]
  exact occursIn_append_of_opens opens _ _

theorem needsFilling_iff {text : Text} : needsFilling text = true ↔
    isComment text = false ∧ ∃ d : Dialect, d.occursIn text := by
  simp only [needsFilling, Bool.and_eq_true, Bool.not_eq_true', Bool.or_eq_true]
  constructor
  · rintro ⟨hcomment, h | h⟩
    · exact ⟨hcomment, .secret, h⟩
    · exact ⟨hcomment, .reference, h⟩
  · rintro ⟨hcomment, d, h⟩
    cases d with
    | secret => exact ⟨hcomment, Or.inl h⟩
    | reference => exact ⟨hcomment, Or.inr h⟩

theorem needsFilling_of_holdsPlaceholder (h : HoldsPlaceholder raw) (hcomment : ¬ StartsComment raw) :
    needsFilling (Utf8.decodeLossy raw) = true := by
  rw [needsFilling_iff, ← Bool.not_eq_true, isComment_decodeLossy_iff]
  exact ⟨hcomment, h.occursIn⟩

end Checks

section Lines

variable {site : Site} {cache : Cache} {line : Bytes}

/-- The check asks for nothing and loads nothing. -/
theorem copyRaw_apply (number : Nat) (raw : Bytes) :
    copyRaw number raw site cache =
      { result := if needsFilling (Utf8.decodeLossy raw) then .error (.failure (.undecodable number))
          else .ok raw
        cache
        events := [] } := by
  rw [copyRaw]
  split <;> rfl

variable [Pattern.Limit]

theorem processRaw_apply_of_undecodable (h : Undecodable (chompReturn line)) (number : Nat) :
    processRaw number line site cache =
      { result := if needsFilling (Utf8.decodeLossy (chompReturn line)) then
            .error (.failure (.undecodable number))
          else .ok (chompReturn line)
        cache
        events := [] } := by
  rw [processRaw_of_undecodable (undecodable_iff.mp h), copyRaw_apply]

/-- Only a line that is not UTF-8 fails so, and under its own number. -/
theorem processRaw_eq_undecodable_iff {number n : Nat} :
    (processRaw number line site cache).result = .error (.failure (.undecodable n)) ↔
      n = number ∧ Undecodable (chompReturn line) ∧
        needsFilling (Utf8.decodeLossy (chompReturn line)) = true := by
  cases hdecode : Utf8.decode? (chompReturn line) with
  | some text =>
    have hvalid : ¬ Undecodable (chompReturn line) := by simp [undecodable_iff, hdecode]
    simp only [hvalid, false_and, and_false, iff_false]
    intro h
    rw [processRaw_of_text hdecode, bind_result_eq_error_iff] at h
    rcases h with h | ⟨filled, -, h⟩
    · cases ofLine_of_processLine h
    · simp [pure_apply] at h
  | none =>
    have hraw := undecodable_iff.mpr hdecode
    rw [processRaw_apply_of_undecodable hraw]
    simp only [hraw, true_and]
    split
    · next hneeds =>
      simp only [hneeds, and_true, Except.error.injEq, Stop.failure.injEq]
      exact ⟨fun h => undecodable_injective h.symm, fun h => h ▸ rfl⟩
    · next hneeds => simp [hneeds]

/-- The first line to fail, if it fails for not being UTF-8. -/
structure FirstUndecodable (site : Site) (cache : Cache) (lines : List Bytes) (n : Nat)
    (before : List Bytes) (line : Bytes) : Prop where
  place : ∃ after, lines = before ++ line :: after
  number : n = before.length + 1
  earlier : ∃ filled, (processLines 1 before site cache).result = .ok filled
  undecodable : Undecodable (chompReturn line)
  noComment : isComment (Utf8.decodeLossy (chompReturn line)) = false
  placeholder : ∃ d : Dialect, d.occursIn (Utf8.decodeLossy (chompReturn line))

theorem processAll_eq_undecodable_iff {input : Input} {n : Nat} :
    (processAll input site cache).result = .error (.failure (.undecodable n)) ↔
      ∃ before line, FirstUndecodable site cache input.lines n before line := by
  rw [processAll_error_iff, processLines_error_iff]
  simp only [processRaw_eq_undecodable_iff, needsFilling_iff]
  constructor
  · rintro (⟨before, line, after, filled, hlines, hfilled, hnumber, hraw, hcomment, hd⟩ |
      ⟨-, reason, -, -, hio⟩)
    · exact ⟨before, line, ⟨after, hlines⟩, hnumber.trans (Nat.add_comm _ _), ⟨filled, hfilled⟩,
        hraw, hcomment, hd⟩
    · cases hio
  · rintro ⟨before, line, ⟨after, hlines⟩, hnumber, ⟨filled, hfilled⟩, hraw, hcomment, hd⟩
    exact Or.inl ⟨before, line, after, filled, hlines, hfilled,
      hnumber.trans (Nat.add_comm _ _), hraw, hcomment, hd⟩

/-- Input is never called invalid for another reason. -/
theorem exists_eq_undecodable {input : Input} {reason : Text}
    (h : (processAll input site cache).result = .error (.failure (.invalidInput reason))) :
    ∃ n, Failure.invalidInput reason = .undecodable n := by
  rcases processAll_error_iff.mp h with h | ⟨-, reason', -, -, hio⟩
  · obtain ⟨before, line, after, filled, -, -, hfails⟩ := (processLines_error_iff 1 _ _).mp h
    cases hdecode : Utf8.decode? (chompReturn line) with
    | some text =>
      rw [processRaw_of_text hdecode, bind_result_eq_error_iff] at hfails
      rcases hfails with hfails | ⟨filled, -, hfails⟩
      · cases ofLine_of_processLine hfails
      · simp [pure_apply] at hfails
    | none =>
      rw [processRaw_apply_of_undecodable (undecodable_iff.mpr hdecode)] at hfails
      simp only at hfails
      split at hfails
      · exact ⟨_, (Stop.failure.inj (Except.error.inj hfails)).symm⟩
      · contradiction
  · cases hio

/-- A stream comes to nothing if there is a placeholder in a line that is not UTF-8. -/
theorem processAll_stops_of_holdsPlaceholder {input : Input}
    (hline : line ∈ pieces lineFeed input.bytes) (hraw : Undecodable (chompReturn line))
    (hholds : HoldsPlaceholder (chompReturn line)) (hcomment : ¬ StartsComment (chompReturn line)) :
    ∃ stop, (processAll input site cache).result = .error stop := by
  cases hlines : (processLines 1 input.lines site cache).result with
  | error stop => exact ⟨stop, processAll_error_iff.mpr (Or.inl hlines)⟩
  | ok filled =>
    cases hfault : input.fault with
    | some reason =>
      exact ⟨_, processAll_error_iff.mpr (Or.inr ⟨filled, reason, hlines, hfault, rfl⟩)⟩
    | none =>
      -- The piece behind the last line feed is a line unless it is empty, and what is empty is UTF-8.
      have hne : line ≠ [] := by
        rintro rfl
        exact hraw [] rfl
      have hmem := Input.mem_lines_of_mem_pieces hfault hline hne
      obtain ⟨m, state, out, hout⟩ := processRaw_ok_of_mem hlines hmem
      have hneeds := needsFilling_of_holdsPlaceholder hholds hcomment
      rw [processRaw_apply_of_undecodable hraw, hneeds] at hout
      contradiction

end Lines

section Texts

/-- A site where nothing can be loaded. -/
def barren : Site :=
  { world :=
      { disk := { wording := fun _ _ _ => [] }
        environment := []
        answer := fun _ => .error [] }
    settingsPath := { text := [] } }

variable {text : Text} {d : Dialect}

theorem needsFilling_iff_dialect? : needsFilling text = true ↔ dialect? text ≠ none := by
  rw [Ne, ← inert_iff, ← needsFilling_eq_false_iff, Bool.not_eq_false]

variable [Pattern.Limit]

theorem resolve_barren {t : Target} (h : t.dialect = d) :
    ∃ f, (d.resolve t barren {}).result = .error f := by
  subst h
  cases t with
  | secret path key =>
    have hsession : (Action.session barren {}).result =
        .error (.failure (.configurationMissing Session.hostVariable)) := rfl
    exact ⟨_, by rw [Target.dialect, Dialect.resolve, resolvePlain,
      resolveSecret_of_no_session hsession]⟩
  | setting key =>
    obtain ⟨f, hsettings⟩ : ∃ f, (Action.settings barren {}).result = .error f :=
      Settings.exists_settings_error rfl (.missing rfl)
    have hkey : (resolveReference key barren {}).result = .error f := by
      rw [resolveReference_of_no_settings hsettings]
    refine ⟨f, ?_⟩
    rw [Target.dialect, Dialect.resolve, resolveDeep_setting, bind_of_error hkey]

/-- Where nothing can be loaded, nothing can be filled in. -/
theorem fillLine_barren (h : d.find text ≠ []) :
    ∃ f, (fillLine d d.resolve text barren {}).result = .error f := by
  obtain ⟨t, more, htargets⟩ : ∃ t more, d.targets text = t :: more :=
    List.exists_cons_of_ne_nil (by simpa [Dialect.targets] using h)
  obtain ⟨f, hf⟩ := resolve_barren (dialect_of_mem_targets (htargets ▸ List.mem_cons_self))
  refine ⟨f, ?_⟩
  rw [fillLine_eq, htargets, List.mapM_cons, bind_of_error (by rw [bind_of_error hf])]

theorem substitutes_of_dialect? (h : dialect? text = some d) : Substitutes d text := by
  have hoccurs : d.occursIn text := by
    rw [dialect?] at h
    split_ifs at h with hcomment hsecret hreference
    · exact Option.some.inj h ▸ hsecret
    · exact Option.some.inj h ▸ hreference
  refine ⟨(occursIn_iff_find_ne_nil d text).mp hoccurs, fun site cache => ?_⟩
  cases d with
  | secret =>
    rw [processLine_of_secret h]
    split
    · rw [bind_of_ok rfl]
      rfl
    · rfl
  | reference =>
    rw [processLine_of_reference h]
    rfl

theorem not_substitutes_of_no_dialect (h : dialect? text = none) : ¬ Substitutes d text := by
  rintro ⟨found, filled⟩
  obtain ⟨f, hfails⟩ := fillLine_barren found
  rw [← filled, processLine_of_no_dialect h] at hfails
  contradiction

/-- There is something to fill in a text exactly if values are put in place of placeholders. -/
theorem needsFilling_iff_substitutes :
    needsFilling text = true ↔ ∃ d, Substitutes d text := by
  rw [needsFilling_iff_dialect?]
  constructor
  · intro h
    obtain ⟨d, hd⟩ := Option.ne_none_iff_exists'.mp h
    exact ⟨d, substitutes_of_dialect? hd⟩
  · rintro ⟨d, hsubstitutes⟩ hnone
    exact not_substitutes_of_no_dialect hnone hsubstitutes

/-- There is nothing to fill in a text exactly if it stays as it is in every world. -/
theorem needsFilling_eq_false_iff_untouched : needsFilling text = false ↔
    ∀ site cache, processLine text site cache = { result := .ok text, cache, events := [] } := by
  rw [needsFilling_eq_false_iff, inert_iff]
  constructor
  · intro h site cache
    rw [processLine_of_no_dialect h, pure_apply]
  · intro h
    cases hdialect : dialect? text with
    | none => rfl
    | some d =>
      obtain ⟨found, filled⟩ := substitutes_of_dialect? hdialect
      obtain ⟨f, hfails⟩ := fillLine_barren found
      rw [← filled, h] at hfails
      contradiction

end Texts

/-- A placeholder does not get past the check of lines that are not UTF-8, and the check objects to a
line if filling it as a text would put something in. -/
theorem processAll_undecodable [Pattern.Limit] (site : Site) (cache : Cache) :
    (∀ input line, line ∈ pieces lineFeed input.bytes → Undecodable (chompReturn line) →
      HoldsPlaceholder (chompReturn line) → ¬ StartsComment (chompReturn line) →
      (∃ f, (processAll input site cache).result = .error (.failure f)) ∨
        ∃ b, StreamBreaksOff site cache input.lines b) ∧
    (∀ input b, (processAll input site cache).result = .error (.breach b) ↔
      StreamBreaksOff site cache input.lines b) ∧
    (∀ input n, (processAll input site cache).result = .error (.failure (.undecodable n)) ↔
      ∃ before line, FirstUndecodable site cache input.lines n before line) ∧
    (∀ input reason, (processAll input site cache).result = .error (.failure (.invalidInput reason)) →
      ∃ n, Failure.invalidInput reason = .undecodable n) ∧
    (∀ raw, isComment (Utf8.decodeLossy raw) = true ↔ StartsComment raw) ∧
    (∀ number line, Undecodable (chompReturn line) →
      (processRaw number line site cache).cache = cache ∧
        (processRaw number line site cache).events = [] ∧
        ((processRaw number line site cache).result = .error (.failure (.undecodable number)) ∨
          (processRaw number line site cache).result = .ok (chompReturn line))) ∧
    (∀ number text,
      ((copyRaw number (Utf8.encode text) site cache).result =
          .error (.failure (.undecodable number)) ↔
        ∃ d, Substitutes d text) ∧
      ((copyRaw number (Utf8.encode text) site cache).result = .ok (Utf8.encode text) ↔
        ∀ site cache, processLine text site cache =
          { result := .ok text, cache, events := [] })) := by
  refine ⟨?stops, fun _ _ => processAll_eq_breach_iff, fun _ _ => processAll_eq_undecodable_iff,
    fun _ _ => exists_eq_undecodable, fun _ => isComment_decodeLossy_iff, ?alone, ?texts⟩
  case stops =>
    intro input line hline hraw hholds hcomment
    obtain ⟨stop, hstop⟩ : ∃ stop, (processAll input site cache).result = .error stop :=
      processAll_stops_of_holdsPlaceholder hline hraw hholds hcomment
    cases stop with
    | failure f => exact Or.inl ⟨f, hstop⟩
    | breach b => exact Or.inr ⟨b, processAll_eq_breach_iff.mp hstop⟩
  case alone =>
    intro number line hraw
    rw [processRaw_apply_of_undecodable hraw]
    refine ⟨rfl, rfl, ?_⟩
    cases needsFilling (Utf8.decodeLossy (chompReturn line)) with
    | true => exact Or.inl rfl
    | false => exact Or.inr rfl
  case texts =>
    intro number text
    rw [copyRaw_apply, Utf8.decodeLossy_of_decode? (Utf8.decode?_encode text),
      ← needsFilling_iff_substitutes, ← needsFilling_eq_false_iff_untouched]
    cases needsFilling text <;> simp

end Infill
