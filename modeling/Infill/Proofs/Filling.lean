import Infill.Proofs.Action
import Infill.Proofs.Placeholder.Scan

/-!
# Filling is looking up and putting in

To fill a line is to look up what its placeholders name, one after the other, and then to put the
texts that have been found into the line (`fillLine_eq`).  The lookups depend on nothing but the
names, and what has been found is not looked at before all of it is there.
-/

namespace Infill

open Infill.Action

/-- What the placeholders of a dialect in a text name, in order. -/
def Dialect.targets (d : Dialect) (text : Text) : List Target :=
  (d.find text).map fun o => o.placeholder.target

/-- The path and the key of a field. -/
def Target.field? : Target → Option (Text × Text)
  | .secret path key => some (path, key)
  | .setting _ => none

/-- The key of a setting. -/
def Target.key? : Target → Option Text
  | .secret _ _ => none
  | .setting key => some key

/-- The fields of secrets that a text names, in order. -/
def fieldsIn (text : Text) : List (Text × Text) :=
  (Dialect.secret.targets text).filterMap Target.field?

/-- The settings that a line names, in order. -/
def keysIn (line : Text) : List Text := (Dialect.reference.targets line).filterMap Target.key?

/-- The line that a template comes to with these texts for its placeholders. -/
def Template.render [Pattern.Limit] (t : Template) (found : List Text) : Except Breach Text :=
  assemble
    (List.zipWith (fun hole raw =>
      { before := hole.1
        value := (Chain.parse hole.2.modifiers).applyData raw
        chain := Chain.parse hole.2.modifiers }) t.holes found)
    t.tail

/-- Looks fields of secrets up, one after the other. -/
def resolveFields (fields : List (Text × Text)) : Action (List Text) :=
  fields.mapM fun field => resolveSecret field.1 field.2

/-- Looks settings up, one after the other, and fills in the secrets that they hold. -/
def resolveKeys [Pattern.Limit] (keys : List Text) : Action (List Text) :=
  keys.mapM fun key => resolveReference key >>= fillSecrets

/-- The dialect that a line is filled in.  A comment is not filled, nor is a line without
placeholders, and secrets go before references. -/
def dialect? (line : Text) : Option Dialect :=
  if isComment line then none
  else if Dialect.secret.occursIn line then some .secret
  else if Dialect.reference.occursIn line then some .reference
  else none

section Targets

variable {d : Dialect} {text : Text}

theorem dialect_of_mem_targets {t : Target} (h : t ∈ d.targets text) : t.dialect = d := by
  obtain ⟨o, ho, rfl⟩ := List.mem_map.mp h
  exact ((referenceScan_find d text).stands o ho).2.written.dialect_target

/-- The secrets of a text are its fields. -/
theorem targets_secret (text : Text) :
    Dialect.secret.targets text = (fieldsIn text).map fun field => .secret field.1 field.2 := by
  have hfield : ∀ t ∈ Dialect.secret.targets text,
      (t.field?.map fun field => Target.secret field.1 field.2) = some t := by
    intro t ht
    cases t with
    | secret path key => rfl
    | setting key => exact absurd (dialect_of_mem_targets ht) (by simp [Target.dialect])
  rw [fieldsIn, List.map_filterMap, List.filterMap_congr hfield, List.filterMap_some]

theorem length_fieldsIn (text : Text) :
    (fieldsIn text).length = (Dialect.secret.find text).length := by
  have hlength := congrArg List.length (targets_secret text)
  rw [Dialect.targets, List.length_map, List.length_map] at hlength
  exact hlength.symm

/-- The references of a line are its keys. -/
theorem targets_reference (line : Text) :
    Dialect.reference.targets line = (keysIn line).map .setting := by
  have hkey : ∀ t ∈ Dialect.reference.targets line, t.key?.map Target.setting = some t := by
    intro t ht
    cases t with
    | secret path key => exact absurd (dialect_of_mem_targets ht) (by simp [Target.dialect])
    | setting key => rfl
  rw [keysIn, List.map_filterMap, List.filterMap_congr hkey, List.filterMap_some]

theorem targets_eq_map_holes (d : Dialect) (text : Text) :
    d.targets text = (Template.ofLine d text).holes.map fun hole => hole.2.target := by
  have hall : ∀ (holes : List (Text × Placeholder)) (start : Nat),
      (Template.occurrencesFrom start holes).map (fun o => o.placeholder.target) =
        holes.map fun hole => hole.2.target := by
    intro holes
    induction holes with
    | nil => intro start; rfl
    | cons hole holes ih =>
      intro start
      simp only [Template.occurrencesFrom, List.map_cons, ih]
  exact hall _ 0

end Targets

section Lines

theorem dialect?_eq_secret_iff {line : Text} : dialect? line = some .secret ↔
    isComment line = false ∧ Dialect.secret.occursIn line = true := by
  rw [dialect?]
  split_ifs <;> simp_all

theorem dialect?_eq_reference_iff {line : Text} : dialect? line = some .reference ↔
    isComment line = false ∧ Dialect.secret.occursIn line = false ∧
      Dialect.reference.occursIn line = true := by
  rw [dialect?]
  split_ifs <;> simp_all

variable [Pattern.Limit]

theorem fillHoles_eq (resolve : Target → Action Text) (holes : List (Text × Placeholder)) :
    fillHoles resolve holes =
      (holes.map fun hole => hole.2.target).mapM resolve >>= fun found =>
        pure (List.zipWith (fun hole raw =>
          { before := hole.1
            value := (Chain.parse hole.2.modifiers).applyData raw
            chain := Chain.parse hole.2.modifiers }) holes found) := by
  induction holes with
  | nil => simp [fillHoles]
  | cons hole holes ih =>
    simp only [fillHoles, fillHole, ih, List.map_cons, List.mapM_cons, bind_assoc, pure_bind,
      List.zipWith_cons_cons]

theorem fillLine_eq (d : Dialect) (resolve : Target → Action Text) (line : Text) :
    fillLine d resolve line =
      (d.targets line).mapM resolve >>= fun found =>
        Action.ofStep ((Template.ofLine d line).render found) := by
  rw [targets_eq_map_holes]
  simp only [fillLine, fillHoles_eq, bind_assoc, pure_bind]
  rfl

theorem fillLine_of_not_occursIn {d : Dialect} {line : Text} (resolve : Target → Action Text)
    (h : d.occursIn line = false) : fillLine d resolve line = pure line := by
  simp only [fillLine, Template.ofLine_of_noStart (Dialect.not_occursIn_iff.mp h), fillHoles, pure_bind]
  rfl

theorem fillSecrets_eq (text : Text) :
    fillSecrets text = resolveFields (fieldsIn text) >>= fun found =>
      Action.ofStep ((Template.ofLine .secret text).render found) := by
  rw [fillSecrets, fillLine_eq, targets_secret, List.mapM_map]
  rfl

/-- Secrets are filled in as by the lookup that also fills in what settings hold. -/
theorem fillSecrets_eq_fillLine (text : Text) :
    fillSecrets text = fillLine .secret resolveDeep text := by
  rw [fillSecrets, fillLine_eq, fillLine_eq, targets_secret, List.mapM_map, List.mapM_map]
  rfl

theorem resolveDeep_setting (key : Text) :
    resolveDeep (.setting key) = resolveReference key >>= fillSecrets := by
  rw [resolveDeep]
  congr 1
  funext value
  split
  · rfl
  · next h =>
    exact (fillLine_of_not_occursIn resolvePlain (by simpa using h)).symm

theorem fillReferences_eq (line : Text) :
    fillReferences line = resolveKeys (keysIn line) >>= fun found =>
      Action.ofStep ((Template.ofLine .reference line).render found) := by
  have hresolve : resolveDeep ∘ Target.setting = fun key => resolveReference key >>= fillSecrets :=
    funext resolveDeep_setting
  rw [fillReferences, fillLine_eq, targets_reference, List.mapM_map, hresolve]
  rfl

theorem processLine_of_no_dialect {line : Text} (h : dialect? line = none) :
    processLine line = pure line := by
  rw [processLine_eq]
  rw [dialect?] at h
  split at h
  · next hcomment => rw [if_pos hcomment]
  · next hcomment =>
    split at h
    · contradiction
    · next hsecret =>
      split at h
      · contradiction
      · next hreference => rw [if_neg hcomment, if_neg hsecret, if_neg hreference]

theorem processLine_of_secret {line : Text} (h : dialect? line = some .secret) :
    processLine line =
      if Dialect.reference.occursIn line then
        Action.emit (.warning line) >>= fun _ => fillSecrets line
      else fillSecrets line := by
  rw [processLine_eq]
  rw [dialect?] at h
  split at h
  · contradiction
  · next hcomment =>
    split at h
    · next hsecret => rw [if_neg hcomment, if_pos hsecret]
    · split at h
      · cases h
      · contradiction

theorem processLine_of_reference {line : Text} (h : dialect? line = some .reference) :
    processLine line = fillReferences line := by
  rw [processLine_eq]
  rw [dialect?] at h
  split at h
  · contradiction
  · next hcomment =>
    split at h
    · cases h
    · next hsecret =>
      split at h
      · next hreference => rw [if_neg hcomment, if_neg hsecret, if_pos hreference]
      · contradiction

end Lines

end Infill
