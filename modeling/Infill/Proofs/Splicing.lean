import Infill.Proofs.Filling
import Infill.Proofs.Line
import Infill.Proofs.Modifier.Composition
import Mathlib.Data.List.Forall2

/-!
# What a filled line is made of

A line is filled exactly if there is a value for everything that its placeholders name, and then it
comes to one text: the values, each under the data modifiers of its own placeholder, are put in the
places of the placeholders, and the line modifiers of all of them act on the result in order
(`processLine_eq_ok_iff`, `Template.render_eq`).
-/

namespace Infill

open Infill.Action

/-- Steps in a row succeed with what each of them gives when it is taken first. -/
theorem mapM_result_eq_ok_iff {α γ : Type} {f : γ → Action α} (hf : ∀ c, Steady (f c))
    {site : Site} {cache base : Cache} (hcache : cache.Extends site base) (l : List γ) (found : List α) :
    ((l.mapM f) site cache).result = .ok found ↔
      List.Forall₂ (fun c a => (f c site base).result = .ok a) l found := by
  -- The cache is generalized: what the first step has loaded is there for the others.
  induction l generalizing cache found with
  | nil => simp [pure_apply, eq_comm]
  | cons c l ih =>
    obtain ⟨hresult, -, hnext⟩ := hf c site base cache hcache
    simp only [List.mapM_cons, bind_result_eq_ok_iff, hresult, ih hnext, pure_apply,
      Except.ok.injEq, List.forall₂_cons_left_iff]
    constructor
    · rintro ⟨a, ha, more, hmore, rfl⟩
      exact ⟨a, more, ha, hmore, rfl⟩
    · rintro ⟨a, more, ha, hmore, rfl⟩
      exact ⟨a, ha, more, hmore, rfl⟩

variable [Pattern.Limit]

/-- The text that is put in the place of the placeholder for the value of what it names. -/
def Placeholder.put (p : Placeholder) (value : Text) : Text :=
  (Chain.parse p.modifiers).applyData value

namespace Template

/-- The line with a text put in the place of each placeholder, before line modifiers act on it. -/
def splice (t : Template) (values : List Text) : Text :=
  fill (List.zipWith (fun hole value => (hole.1, hole.2.put value)) t.holes values) t.tail

/-- The line modifiers of all placeholders, in order. -/
def lineModifiers (t : Template) : List Modifier :=
  t.placeholders.flatMap fun p => (Chain.parse p.modifiers).lineModifiers

theorem zipWith_chains {holes : List (Text × Placeholder)} {values : List Text}
    (h : values.length = holes.length) :
    List.zipWith (fun hole _ => Chain.parse hole.2.modifiers) holes values =
      holes.map fun hole => Chain.parse hole.2.modifiers := by
  conv_rhs => rw [← List.map_fst_zip h.ge, List.map_map, List.map_zip_eq_zipWith]
  rfl

/-- Putting texts in comes first, and the line modifiers act on what it gives. -/
theorem render_eq (t : Template) {values : List Text} (h : values.length = t.holes.length) :
    t.render values = t.lineModifiers.foldlM Modifier.applyLine (t.splice values) := by
  rw [render, assemble, List.map_zipWith, List.map_zipWith, zipWith_chains h, Chain.foldlM_applyLine,
    lineModifiers, placeholders, List.flatMap_map, List.flatMap_map]
  rfl

end Template

section Values

variable {d : Dialect} {line out : Text} {site : Site} {cache : Cache}

/-- A line is filled with the values of its placeholders in the one dialect as in the other. -/
theorem processLine_result_eq (h : dialect? line = some d) :
    (processLine line site cache).result = (fillLine d resolveDeep line site cache).result := by
  cases d with
  | secret =>
    rw [processLine_of_secret h, ← fillSecrets_eq_fillLine]
    split
    · rw [bind_of_ok rfl]
      rfl
    · rfl
  | reference =>
    rw [processLine_of_reference h]
    rfl

/-- A line that is filled comes to the values of what its placeholders name. -/
theorem processLine_eq_ok_iff (h : dialect? line = some d) :
    (processLine line site cache).result = .ok out ↔
      ∃ values, List.Forall₂ (Value site cache) (d.targets line) values ∧
        (Template.ofLine d line).render values = .ok out := by
  rw [processLine_result_eq h, fillLine_eq, bind_result_eq_ok_iff]
  simp only [mapM_result_eq_ok_iff steady_resolveDeep (.refl site cache), ← value_iff,
    ofStep_result_eq_ok_iff]

theorem length_of_values {values : List Text}
    (h : List.Forall₂ (Value site cache) (d.targets line) values) :
    values.length = (Template.ofLine d line).holes.length := by
  rw [← h.length_eq, targets_eq_map_holes, List.length_map]

/-- A line all of whose placeholders have values comes to what they make of it, or it breaks off. -/
theorem processLine_of_values {values : List Text} (h : dialect? line = some d)
    (hvalues : List.Forall₂ (Value site cache) (d.targets line) values) :
    (processLine line site cache).result =
      ((Template.ofLine d line).render values).mapError .breach := by
  have hfound : ((d.targets line).mapM resolveDeep site cache).result = .ok values :=
    (mapM_result_eq_ok_iff steady_resolveDeep (.refl site cache) _ _).mpr
      (hvalues.imp fun _ _ => value_iff.mp)
  rw [processLine_result_eq h, fillLine_eq, bind_of_ok hfound]
  rfl

/-- A line with one placeholder comes to its literal text around the value of what it names, under the
data modifiers of the placeholder. -/
theorem processLine_of_one_placeholder {before tail raw : Text} {p : Placeholder}
    (hdialect : dialect? line = some d)
    (hline : Template.ofLine d line = { holes := [(before, p)], tail })
    (hmodifiers : (Chain.parse p.modifiers).lineModifiers = [])
    (hvalue : Value site cache p.target raw) :
    (processLine line site cache).result = .ok (before ++ p.put raw ++ tail) := by
  have htargets : d.targets line = [p.target] := by
    rw [targets_eq_map_holes, hline]
    rfl
  refine (processLine_eq_ok_iff hdialect).mpr ⟨[raw], ?_, ?_⟩
  · rw [htargets]
    exact .cons hvalue .nil
  · rw [Template.render_eq _ (by rw [hline]; rfl), hline]
    simp [Template.lineModifiers, Template.placeholders, Template.splice, Template.fill, hmodifiers]
    rfl

end Values

end Infill
