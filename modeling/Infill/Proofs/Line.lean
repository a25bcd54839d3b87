import Infill.Pattern.Estimate
import Infill.Proofs.Action
import Infill.Proofs.Placeholder.Spelling

/-!
# What a line is filled with

`Value` says what is put in for the name in a placeholder, and `Yields` also counts the names that
break off because of what a setting holds.  A line made of literal texts without `$` and of
placeholders of one dialect keeps its literal texts, has the values in the places of the
placeholders, each under the data modifiers of its own placeholder, and is then changed as a whole
by the line modifiers of one placeholder after the other.  Where one of these steps is out of
bounds, the line is broken off, and nowhere else (`processLine_fill`).
-/

namespace Infill

open Infill.Action

section Values

variable {site : Site} {cache : Cache}

theorem Action.Steady.result_after {α β : Type} {x : Action α} {y : Action β} (hx : Steady x)
    (hy : Steady y) : (y site (x site cache).cache).result = (y site cache).result :=
  (hy site cache _ (hx site cache cache (.refl site cache)).2.2).1

theorem orIfMissing_ok_iff {x : Action Text} {fallback t : Text} :
    (x.orIfMissing fallback site cache).result = .ok t ↔ (x site cache).result = .ok t ∨
      ∃ f, (x site cache).result = .error (.failure f) ∧ f.isNotFound ∧ t = fallback := by
  cases h : (x site cache).result with
  | ok a =>
    rw [orIfMissing_of_ok h, h]
    simp
  | error stop =>
    rw [orIfMissing_of_error h]
    cases stop with
    | breach b => simp [Stop.isNotFound, h]
    | failure f =>
      by_cases hf : f.isNotFound
      · simpa [Stop.isNotFound, hf, h] using eq_comm
      · simp [Stop.isNotFound, hf, h]

variable [Pattern.Limit]

/-- The value of what a placeholder names.  A field that is not there is empty, and so is a setting;
the secrets that a setting holds are filled in, and no others. -/
inductive Value (site : Site) (cache : Cache) : Target → Text → Prop
  | field {path key value : Text} {s : Session} (session : (session site cache).result = .ok s)
      (read : (readField s path key site cache).result = .ok value) :
      Value site cache (.secret path key) value
  | missing {path key : Text} {s : Session} {f : Failure}
      (session : (session site cache).result = .ok s)
      (read : (readField s path key site cache).result = .error (.failure f))
      (notFound : f.isNotFound) :
      Value site cache (.secret path key) []
  | plain {key : Text} {s : Settings} (settings : (settings site cache).result = .ok s)
      (noSecret : Dialect.secret.occursIn ((s.get? key).getD []) = false) :
      Value site cache (.setting key) ((s.get? key).getD [])
  | filled {key value : Text} {s : Settings} (settings : (settings site cache).result = .ok s)
      (secret : Dialect.secret.occursIn ((s.get? key).getD []))
      (filled : (fillSecrets ((s.get? key).getD []) site cache).result = .ok value) :
      Value site cache (.setting key) value

theorem value_secret_iff {path key t : Text} :
    Value site cache (.secret path key) t ↔
      (resolveDeep (.secret path key) site cache).result = .ok t := by
  simp only [resolveDeep, resolveSecret, bind_result_eq_ok_iff]
  constructor
  · rintro (⟨hsession, hread⟩ | ⟨hsession, hread, hmissing⟩)
    · refine ⟨_, hsession, orIfMissing_ok_iff.mpr (Or.inl ?_)⟩
      rwa [Steady.session.result_after (composed_readField _ _ _).steady]
    · refine ⟨_, hsession, orIfMissing_ok_iff.mpr (Or.inr ⟨_, ?_, hmissing, rfl⟩)⟩
      rwa [Steady.session.result_after (composed_readField _ _ _).steady]
  · rintro ⟨s, hsession, hread⟩
    rw [orIfMissing_ok_iff, Steady.session.result_after (composed_readField _ _ _).steady] at hread
    rcases hread with hread | ⟨f, hread, hmissing, rfl⟩
    · exact .field hsession hread
    · exact .missing hsession hread hmissing

theorem value_setting_iff {key t : Text} :
    Value site cache (.setting key) t ↔
      (resolveDeep (.setting key) site cache).result = .ok t := by
  have hvalue : ∀ {value : Text}, (resolveReference key site cache).result = .ok value ↔
      ∃ s, (settings site cache).result = .ok s ∧ (s.get? key).getD [] = value := by
    intro value
    rw [resolveReference, bind_result_eq_ok_iff]
    simp only [pure_apply, Except.ok.injEq]
  have hafter : ∀ t, (fillSecrets t site (resolveReference key site cache).cache).result =
      (fillSecrets t site cache).result :=
    fun t => (composed_resolveReference key).steady.result_after (composed_fillSecrets t).steady
  simp only [resolveDeep, bind_result_eq_ok_iff, hvalue]
  constructor
  · rintro (_ | _ | ⟨hsettings, hnone⟩ | ⟨hsettings, hsecret, hfilled⟩)
    · exact ⟨_, ⟨_, hsettings, rfl⟩, by rw [hnone]; rfl⟩
    · exact ⟨_, ⟨_, hsettings, rfl⟩, by rwa [if_pos hsecret, hafter]⟩
  · rintro ⟨_, ⟨s, hsettings, rfl⟩, hread⟩
    cases hsecret : Dialect.secret.occursIn ((s.get? key).getD []) with
    | false =>
      rw [hsecret] at hread
      obtain rfl := Except.ok.inj hread
      exact .plain hsettings hsecret
    | true =>
      rw [if_pos hsecret, hafter] at hread
      exact .filled hsettings hsecret hread

theorem value_iff {target : Target} {t : Text} :
    Value site cache target t ↔ (resolveDeep target site cache).result = .ok t := by
  cases target with
  | secret path key => exact value_secret_iff
  | setting key => exact value_setting_iff

/-- What the name in a placeholder gives: its value, or the step out of bounds at which the secrets
that a setting holds cannot be filled in. -/
inductive Yields (site : Site) (cache : Cache) : Target → Except Breach Text → Prop
  | value {target : Target} {t : Text} (value : Value site cache target t) :
      Yields site cache target (.ok t)
  | breach {key : Text} {s : Settings} {b : Breach} (settings : (settings site cache).result = .ok s)
      (secret : Dialect.secret.occursIn ((s.get? key).getD []))
      (filled : (fillSecrets ((s.get? key).getD []) site cache).result = .error (.breach b)) :
      Yields site cache (.setting key) (.error b)

theorem Yields.resolveDeep {target : Target} {given : Except Breach Text}
    (h : Yields site cache target given) :
    (resolveDeep target site cache).result = given.mapError .breach := by
  cases h with
  | value hvalue => exact value_iff.mp hvalue
  | @breach key s _ hsettings hsecret hfilled =>
    have hreference : (resolveReference key site cache).result = .ok ((s.get? key).getD []) :=
      bind_result_eq_ok_iff.mpr ⟨s, hsettings, rfl⟩
    refine bind_result_eq_error_iff.mpr (Or.inr ⟨_, hreference, ?_⟩)
    rw [if_pos hsecret, (composed_resolveReference _).steady.result_after
      (composed_fillSecrets _).steady, hfilled]

end Values

theorem isComment_append_dollar {before : Text} (h : isComment before = false) (rest : Text) :
    isComment (before ++ '$' :: rest) = false := by
  rw [isComment, Text.trimStart] at *
  induction before with
  | nil => rfl
  | cons c before ih =>
    by_cases hc : Text.isBlank c
    · rw [List.cons_append, List.dropWhile_cons_of_pos hc]
      rw [List.dropWhile_cons_of_pos hc] at h
      exact ih h
    · rw [List.cons_append, List.dropWhile_cons_of_neg hc]
      rw [List.dropWhile_cons_of_neg hc] at h
      simpa [Text.startsWith, afterLead?] using h

/-- A literal text, a placeholder behind it, and what the name in it gives. -/
structure Part where
  before : Text
  spelling : Spelling
  value : Except Breach Text

/-- The line that parts spell, with a literal text behind the last one. -/
def spelledLine (parts : List Part) (tail : Text) : Text :=
  Template.fill (parts.map fun part => (part.before, part.spelling.text)) tail

theorem isComment_spelledLine {first : Part} {more : List Part} {tail : Text} (hsound : first.spelling.Sound)
    (h : isComment first.before = false) :
    isComment (spelledLine (first :: more) tail) = false := by
  obtain ⟨text, htext⟩ := (Spelling.written hsound).exists_cons
  have hline : spelledLine (first :: more) tail =
      first.before ++ '$' :: (text ++ spelledLine more tail) := by
    simp [spelledLine, Template.fill, htext]
  rw [hline]
  exact isComment_append_dollar h _

section Lines

variable [Pattern.Limit]

/-- The bar in front of modifiers is no part of them. -/
theorem Chain.parse_suffix (modifiers : Option Text) :
    Chain.parse (Spelling.suffix modifiers) = Chain.parse (modifiers.getD []) := by
  cases modifiers with
  | none => rfl
  | some modifiers => rfl

namespace Part

/-- The modifiers of the placeholder. -/
def chain (part : Part) : Chain := Chain.parse (part.spelling.modifiers.getD [])

/-- The placeholder as it is found in a line. -/
def hole (part : Part) : Text × Placeholder := (part.before, part.spelling.placeholder)

/-- The placeholder as it is filled: its value is changed by its data modifiers. -/
def filled (part : Part) : Except Breach Filled := do
  return { before := part.before, value := part.chain.applyData (← part.value), chain := part.chain }

/-- The literal text holds no `$`, and the placeholder is one of the dialect and names the value. -/
structure Fits (d : Dialect) (site : Site) (cache : Cache) (part : Part) : Prop where
  literal : '$' ∉ part.before
  sound : part.spelling.Sound
  dialect : part.spelling.dialect = d
  value : Yields site cache part.spelling.target part.value

end Part

/-- The line that parts come to: the values under their data modifiers, then the line modifiers. -/
def filledLine (parts : List Part) (tail : Text) : Except Breach Text := do
  let filled ← parts.mapM Part.filled
  filled.foldlM (fun line f => f.chain.applyLine line)
    (Template.fill (filled.map fun f => (f.before, f.value)) tail)

variable {d : Dialect} {site : Site} {cache : Cache} {parts : List Part} {tail : Text}

theorem ofLine_spelledLine (h : ∀ part ∈ parts, part.Fits d site cache) (htail : '$' ∉ tail) :
    Template.ofLine d (spelledLine parts tail) = { holes := parts.map Part.hole, tail } := by
  have hcut := Template.ofLine_fill (d := d) (parts.map fun part => (part.before, part.spelling))
    (by simpa using fun part hpart => (h part hpart).literal)
    (by simpa using fun part hpart => ⟨(h part hpart).sound, (h part hpart).dialect⟩) htail
  rw [List.map_map, List.map_map] at hcut
  exact hcut

/-- Holes are filled with the values of their placeholders, each looked up from the start, up to the
first one that breaks off. -/
theorem fillHoles_of_values {resolve : Target → Action Text} (hresolve : ∀ t, Steady (resolve t))
    {base : Cache} (hcache : cache.Extends site base)
    (h : ∀ part ∈ parts,
      (resolve part.spelling.target site base).result = part.value.mapError .breach) :
    (fillHoles resolve (parts.map Part.hole) site cache).result =
      (parts.mapM Part.filled).mapError .breach := by
  -- The cache is generalized: what the first hole has loaded is there for the others.
  induction parts generalizing cache with
  | nil => rfl
  | cons part parts ih =>
    obtain ⟨hvalue, h⟩ := List.forall_mem_cons.mp h
    obtain ⟨hresult, -, hnext⟩ := hresolve part.spelling.target site base cache hcache
    have hfirst : fillHole resolve part.hole =
        resolve part.spelling.target >>= fun raw => pure
          { before := part.before, value := part.chain.applyData raw, chain := part.chain } := by
      rw [Part.chain, ← Chain.parse_suffix]
      rfl
    have hfilled : (fillHole resolve part.hole site cache).result = part.filled.mapError .breach := by
      rw [hfirst, result_bind_pure, hresult.trans hvalue, Part.filled]
      cases part.value <;> rfl
    have hcache : (fillHole resolve part.hole site cache).cache.Extends site base := by
      rw [hfirst, cache_bind_pure]
      exact hnext
    rw [List.map_cons, fillHoles, List.mapM_cons]
    cases hpart : part.filled with
    | error b =>
      rw [hpart] at hfilled
      rw [bind_of_error hfilled]
      rfl
    | ok filled =>
      rw [hpart] at hfilled
      rw [bind_of_ok hfilled, result_bind_pure, ih hcache h]
      cases parts.mapM Part.filled <;> rfl

theorem fillLine_spelledLine {resolve : Target → Action Text} (hresolve : ∀ t, Steady (resolve t))
    (hdeep : ∀ t, t.dialect = d → resolve t = resolveDeep t)
    (h : ∀ part ∈ parts, part.Fits d site cache) (htail : '$' ∉ tail) :
    (fillLine d resolve (spelledLine parts tail) site cache).result =
      (filledLine parts tail).mapError .breach := by
  have hvalues : ∀ part ∈ parts,
      (resolve part.spelling.target site cache).result = part.value.mapError .breach := by
    intro part hpart
    obtain ⟨-, -, hdialect, hvalue⟩ := h part hpart
    rw [hdeep _ (part.spelling.dialect_target.trans hdialect)]
    exact hvalue.resolveDeep
  have hfill := fillHoles_of_values hresolve (.refl site cache) hvalues
  rw [fillLine, ofLine_spelledLine h htail]
  cases hparts : parts.mapM Part.filled with
  | error b =>
    rw [hparts] at hfill
    rw [bind_of_error hfill, filledLine, hparts]
    rfl
  | ok filled =>
    rw [hparts] at hfill
    rw [bind_of_ok hfill, filledLine, hparts, assemble, List.foldlM_map]
    rfl

theorem occursIn_spelledLine {first : Part} {more : List Part}
    (h : ∀ part ∈ first :: more, part.Fits d site cache) (htail : '$' ∉ tail) :
    d.occursIn (spelledLine (first :: more) tail) := by
  rw [Dialect.occursIn_iff_not_noStart, ← Dialect.holes_eq_nil_iff, ofLine_spelledLine h htail]
  exact List.cons_ne_nil _ _

theorem not_occursIn_spelledLine (h : ∀ part ∈ parts, part.Fits .reference site cache)
    (htail : '$' ∉ tail) : Dialect.secret.occursIn (spelledLine parts tail) = false := by
  have hnone := Template.noStart_secret_fill (parts.map fun part => (part.before, part.spelling))
    (by simpa using fun part hpart => (h part hpart).literal)
    (by simpa using fun part hpart => ⟨(h part hpart).sound, (h part hpart).dialect⟩) htail
  rw [Dialect.not_occursIn_iff]
  rw [List.map_map] at hnone
  exact hnone

theorem processLine_secretParts {first : Part} {more : List Part}
    (hcomment : isComment first.before = false)
    (hparts : ∀ part ∈ first :: more, part.Fits .secret site cache) (htail : '$' ∉ tail) :
    (processLine (spelledLine (first :: more) tail) site cache).result =
      (filledLine (first :: more) tail).mapError .breach := by
  have hsound := (hparts first List.mem_cons_self).sound
  have hoccurs := occursIn_spelledLine hparts htail
  have hfill := fillLine_spelledLine steady_resolvePlain
    (fun t ht => by cases t with | secret => rfl | setting => contradiction) hparts htail
  rw [processLine_eq, isComment_spelledLine hsound hcomment]
  simp only [hoccurs, Bool.false_eq_true, if_false, if_true]
  -- A reference in the line is warned of, and left as it is.
  split
  · exact hfill
  · exact hfill

theorem processLine_referenceParts {first : Part} {more : List Part}
    (hcomment : isComment first.before = false)
    (hparts : ∀ part ∈ first :: more, part.Fits .reference site cache) (htail : '$' ∉ tail) :
    (processLine (spelledLine (first :: more) tail) site cache).result =
      (filledLine (first :: more) tail).mapError .breach := by
  have hsound := (hparts first List.mem_cons_self).sound
  have hoccurs := occursIn_spelledLine hparts htail
  have hnone := not_occursIn_spelledLine hparts htail
  rw [processLine_eq, isComment_spelledLine hsound hcomment]
  simp only [hoccurs, hnone, Bool.false_eq_true, if_false, if_true]
  exact fillLine_spelledLine steady_resolveDeep (fun _ _ => rfl) hparts htail

/-- A line of literal texts and placeholders of one dialect is filled part by part, and broken off
exactly where one of the values or a line modifier is out of bounds. -/
theorem processLine_fill (d : Dialect) (site : Site) (cache : Cache) (first : Part)
    (more : List Part) (tail : Text) (hcomment : isComment first.before = false)
    (hparts : ∀ part ∈ first :: more, part.Fits d site cache) (htail : '$' ∉ tail) :
    (processLine (spelledLine (first :: more) tail) site cache).result =
      (filledLine (first :: more) tail).mapError .breach := by
  cases d with
  | secret => exact processLine_secretParts hcomment hparts htail
  | reference => exact processLine_referenceParts hcomment hparts htail

end Lines

open scoped Pattern.Estimate in
/-- A setting is filled in twice, under different modifiers, and what it holds is not looked up. -/
theorem processLine_fill_same_setting_twice :
    (processLine "a $\x7b ref:K \x7d b $\x7bref:K | base64\x7d".toList
      { world := { disk := { wording := fun _ _ _ => [] }, environment := [],
                   answer := fun _ => .error [] },
        settingsPath := { text := [] } }
      { settings := some { entries := [(['K'], "$\x7bref:K\x7d".toList)] } }).result =
      .ok "a $\x7bref:K\x7d b JHtyZWY6S30=".toList := by
  have hname : IsName ['}', '|', '$'] ['K'] := ⟨by decide, by decide, by simp⟩
  refine ((congrArg (fun line => (processLine line _ _).result) ?line).trans
    (processLine_fill .reference _ _
      { before := "a ".toList, spelling := .reference [' '] [] ['K'] [' '] none,
        value := .ok "$\x7bref:K\x7d".toList }
      [{ before := " b ".toList,
         spelling := .reference [] [] ['K'] [' '] (some " base64".toList),
         value := .ok "$\x7bref:K\x7d".toList }] [] (by decide) ?parts (by decide))).trans
    (congrArg (Except.mapError Stop.breach) (show filledLine _ _ = .ok _ from ?filled))
  case line => decide +kernel
  case filled => decide +kernel
  case parts =>
    simp only [List.forall_mem_cons, List.not_mem_nil, false_imp_iff, implies_true, and_true]
    constructor
    · exact ⟨by decide, ⟨by simp [Text.isBlank], hname, by decide⟩, rfl,
        .value (.plain (s := { entries := [(['K'], "$\x7bref:K\x7d".toList)] }) rfl (by decide))⟩
    · exact ⟨by decide, ⟨by simp [Text.isBlank], hname, by decide⟩, rfl,
        .value (.plain (s := { entries := [(['K'], "$\x7bref:K\x7d".toList)] }) rfl (by decide))⟩

end Infill
