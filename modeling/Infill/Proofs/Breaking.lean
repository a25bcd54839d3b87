import Infill.Proofs.Resource
import Infill.Proofs.Splicing
import Infill.Proofs.Stream

/-!
# Where filling breaks off

The line modifiers of placeholders are the only steps in filling that can be out of bounds: a token is
read as an indentation if its width is below 2^64, and the spaces can be made if it is below 2^63.  So a
line breaks off exactly if one of its own indentations is too wide and everything that it names has a
value, or if it names a setting in which there is such an indentation (`processLine_eq_breach_iff`), and
a stream breaks off exactly at a line that does, if all lines before it are filled
(`processAll_eq_breach_iff`).
-/

namespace Infill

open Infill.Action

section Modifiers

/-- The step out of bounds that a modifier is for every line. -/
def Modifier.breach? : Modifier → Option Breach
  | indent width => if width ≤ Text.longest then none else some (.spaces width)
  | _ => none

theorem Modifier.applyLine_eq_error_iff {m : Modifier} {line : Text} {b : Breach} :
    m.applyLine line = .error b ↔ m.breach? = some b := by
  cases m with
  | indent width =>
    rw [applyLine, indentLines, breach?]
    split
    · simp only [reduceCtorEq]
    · exact ⟨fun h => congrArg some (Except.error.inj h),
        fun h => congrArg Except.error (Option.some.inj h)⟩
  | base64 | select | dict | default => simp only [applyLine, breach?, reduceCtorEq]

/-- Of modifiers in a row the first that is out of bounds counts, whatever the line is. -/
theorem Modifier.foldlM_applyLine_eq_error_iff {ms : List Modifier} {line : Text} {b : Breach} :
    ms.foldlM applyLine line = .error b ↔ ms.findSome? breach? = some b := by
  induction ms generalizing line with
  | nil => exact ⟨(nomatch ·), (nomatch ·)⟩
  | cons m ms ih =>
    rw [List.foldlM_cons, List.findSome?_cons]
    cases hline : m.applyLine line with
    | error first =>
      rw [applyLine_eq_error_iff.mp hline]
      exact ⟨fun h => congrArg some (Except.error.inj h),
        fun h => congrArg Except.error (Option.some.inj h)⟩
    | ok next =>
      have hnone : m.breach? = none := by
        refine Option.eq_none_iff_forall_ne_some.mpr fun first hfirst => ?_
        rw [applyLine_eq_error_iff.mpr hfirst] at hline
        contradiction
      rw [hnone]
      exact ih

variable [Pattern.Limit]

/-- A token is read as an indentation only if its width fits into 64 bits. -/
theorem ParsedModifier.width_lt_of_ofToken {token : Text} {width : Nat}
    (h : ofToken token = .recognized (.indent width)) : width < widthLimit := by
  have hwidth : ∀ digits,
      ofWidth token digits = .recognized (.indent width) → width < widthLimit := by
    intro digits hdigits
    rw [ofWidth] at hdigits
    split at hdigits
    · split at hdigits
      · cases hdigits
        assumption
      · contradiction
    · contradiction
  rw [ofToken] at h
  split at h
  · cases h
  · split at h
    · split at h <;> cases h
    · split at h
      · cases h
      · split at h
        · cases h
        · split at h
          · exact hwidth _ h
          · split at h <;> cases h

theorem Chain.width_lt_of_mem_modifiers {raw : Text} {width : Nat}
    (h : .indent width ∈ (Chain.parse raw).modifiers) : width < ParsedModifier.widthLimit := by
  obtain ⟨parsed, hparsed, hmodifier⟩ := List.mem_filterMap.mp h
  obtain ⟨token, -, rfl⟩ := List.mem_map.mp hparsed
  cases htoken : ParsedModifier.ofToken token with
  | ignored token reason =>
    rw [htoken] at hmodifier
    contradiction
  | recognized m =>
    rw [htoken] at hmodifier
    obtain rfl := Option.some.inj hmodifier
    exact ParsedModifier.width_lt_of_ofToken htoken

end Modifiers

section Templates

variable [Pattern.Limit] {t : Template} {b : Breach}

/-- The first line modifier of a template that is out of bounds. -/
def Template.breach? (t : Template) : Option Breach := t.lineModifiers.findSome? Modifier.breach?

/-- Whether a template is broken off shows in its modifiers alone. -/
theorem Template.render_eq_error_iff {values : List Text} (h : values.length = t.holes.length) :
    t.render values = .error b ↔ t.breach? = some b := by
  rw [t.render_eq h]
  exact Modifier.foldlM_applyLine_eq_error_iff

/-- What is out of bounds is an indentation that has been read as such. -/
theorem Template.width_of_breach (h : t.breach? = some b) :
    ∃ width, b = .spaces width ∧ Text.longest < width ∧ width < ParsedModifier.widthLimit := by
  obtain ⟨m, hm, hbreach⟩ := List.exists_of_findSome?_eq_some h
  obtain ⟨p, -, hmodifier⟩ := List.mem_flatMap.mp hm
  have hparsed := (List.mem_filter.mp hmodifier).1
  cases m with
  | indent width =>
    rw [Modifier.breach?] at hbreach
    split at hbreach
    · contradiction
    · next hwide =>
      obtain rfl := Option.some.inj hbreach
      exact ⟨width, rfl, Nat.lt_of_not_le hwide, Chain.width_lt_of_mem_modifiers hparsed⟩
  | base64 | select | dict | default => contradiction

end Templates

section Lookups

variable {γ δ : Type} {found : γ → δ → Prop} {stops : γ → Prop}

/-- Something in a row at which everything stops is reached, since what is before it is found. -/
def StopsIn (found : γ → δ → Prop) (stops : γ → Prop) (l : List γ) : Prop :=
  ∃ before c after values, l = before ++ c :: after ∧ List.Forall₂ found before values ∧ stops c

theorem StopsIn.exists_mem {l : List γ} (h : StopsIn found stops l) : ∃ c ∈ l, stops c := by
  obtain ⟨before, c, after, _, rfl, -, hstops⟩ := h
  exact ⟨c, List.mem_append_right _ List.mem_cons_self, hstops⟩

theorem not_stopsIn_nil : ¬StopsIn found stops [] := by
  intro h
  obtain ⟨c, hc, -⟩ := h.exists_mem
  exact List.not_mem_nil hc

theorem stopsIn_cons_iff {c : γ} {l : List γ} :
    StopsIn found stops (c :: l) ↔ stops c ∨ ∃ a, found c a ∧ StopsIn found stops l := by
  constructor
  · rintro ⟨before, c', after, values, hl, hvalues, hstops⟩
    cases before with
    | nil =>
      obtain ⟨rfl, rfl⟩ := List.cons.inj hl
      exact Or.inl hstops
    | cons first before =>
      obtain ⟨rfl, rfl⟩ := List.cons.inj hl
      obtain ⟨a, more, ha, hmore, rfl⟩ := List.forall₂_cons_left_iff.mp hvalues
      exact Or.inr ⟨a, ha, before, c', after, more, rfl, hmore, hstops⟩
  · rintro (hstops | ⟨a, ha, before, c', after, values, rfl, hvalues, hstops⟩)
    · exact ⟨[], c, l, [], rfl, .nil, hstops⟩
    · exact ⟨c :: before, c', after, a :: values, rfl, .cons ha hvalues, hstops⟩

theorem stopsIn_congr {stops' : γ → Prop} {l : List γ} (h : ∀ c ∈ l, stops c ↔ stops' c) :
    StopsIn found stops l ↔ StopsIn found stops' l := by
  constructor
  · rintro ⟨before, c, after, values, rfl, hvalues, hstops⟩
    exact ⟨before, c, after, values, rfl, hvalues, (h c (by simp)).mp hstops⟩
  · rintro ⟨before, c, after, values, rfl, hvalues, hstops⟩
    exact ⟨before, c, after, values, rfl, hvalues, (h c (by simp)).mpr hstops⟩

/-- Steps in a row come to nothing as the first of them does that is reached. -/
theorem mapM_result_eq_error_iff {f : γ → Action δ} (hf : ∀ c, Steady (f c)) {site : Site}
    {cache base : Cache} (hcache : cache.Extends site base) (l : List γ) (stop : Stop Failure) :
    ((l.mapM f) site cache).result = .error stop ↔
      StopsIn (fun c a => (f c site base).result = .ok a)
        (fun c => (f c site base).result = .error stop) l := by
  -- As for steps that succeed, the cache is generalized.
  induction l generalizing cache with
  | nil =>
    refine ⟨fun h => ?_, fun h => absurd h not_stopsIn_nil⟩
    rw [List.mapM_nil, pure_apply] at h
    contradiction
  | cons c l ih =>
    obtain ⟨hresult, -, hnext⟩ := hf c site base cache hcache
    simp only [List.mapM_cons, stopsIn_cons_iff, bind_result_eq_error_iff, hresult, ih hnext,
      pure_apply, reduceCtorEq, and_false, exists_false, or_false]

end Lookups

namespace Action

variable {α β : Type}

/-- The action takes no step out of bounds. -/
def WithinBounds (x : Action α) : Prop :=
  ∀ site cache b, (x site cache).result ≠ .error (.breach b)

namespace WithinBounds

theorem pure (a : α) : WithinBounds (pure a) := fun _ _ _ h => nomatch h

theorem ofResult (r : Except Failure α) : WithinBounds (Action.ofResult r) := by
  intro site cache b h
  cases r with
  | ok a => exact nomatch h
  | error f => exact nomatch h

theorem ask (r : Request) : WithinBounds (Action.ask r) := by
  intro site cache b h
  rw [Action.ask] at h
  cases hanswer : site.world.answer r with
  | ok response => simp [hanswer] at h
  | error reason => simp [hanswer] at h

theorem fetch (r : Resource) : WithinBounds r.fetch := by
  intro site cache b h
  cases hheld : r.held cache with
  | some value =>
    rw [Resource.fetch_of_held hheld] at h
    contradiction
  | none =>
    rw [Resource.fetch_of_not_held hheld] at h
    cases hload : r.load site with
    | ok value => simp [hload] at h
    | error f => simp [hload] at h

theorem bind {x : Action α} {f : α → Action β} (hx : WithinBounds x)
    (hf : ∀ a, WithinBounds (f a)) : WithinBounds (x >>= f) := by
  intro site cache b h
  rcases bind_result_eq_error_iff.mp h with h | ⟨a, -, h⟩
  · exact hx site cache b h
  · exact hf a _ _ b h

theorem orIfMissing {x : Action Text} (hx : WithinBounds x) (fallback : Text) :
    WithinBounds (x.orIfMissing fallback) := by
  intro site cache b h
  cases hresult : (x site cache).result with
  | ok t =>
    rw [orIfMissing_of_ok hresult, hresult] at h
    contradiction
  | error stop =>
    rw [orIfMissing_of_error hresult] at h
    split at h
    · contradiction
    · exact hx site cache b h

end WithinBounds

end Action

theorem withinBounds_resolveSecret (path key : Text) : WithinBounds (resolveSecret path key) :=
  .bind (.fetch .session) fun _ => .orIfMissing
    (.bind (.ofResult _) fun r => .bind (.ask r) fun _ => .ofResult _) []

theorem withinBounds_resolveReference (key : Text) : WithinBounds (resolveReference key) :=
  .bind (.fetch .settings) fun _ => .pure _

section Lines

variable [Pattern.Limit] {d : Dialect} {site : Site} {cache : Cache} {line : Text} {b : Breach}

/-- Filling the placeholders of a dialect comes to nothing if looking one of them up does, or if all of
them have been looked up and one has an indentation that is too wide. -/
theorem fillLine_result_eq_error_iff {resolve : Target → Action Text}
    (hresolve : ∀ t, Steady (resolve t)) {stop : Stop Failure} :
    (fillLine d resolve line site cache).result = .error stop ↔
      StopsIn (fun t a => (resolve t site cache).result = .ok a)
          (fun t => (resolve t site cache).result = .error stop) (d.targets line) ∨
        ∃ b, stop = .breach b ∧
          (∃ values, List.Forall₂ (fun t a => (resolve t site cache).result = .ok a)
            (d.targets line) values) ∧
          (Template.ofLine d line).breach? = some b := by
  rw [fillLine_eq, bind_result_eq_error_iff, mapM_result_eq_error_iff hresolve (.refl site cache)]
  simp only [mapM_result_eq_ok_iff hresolve (.refl site cache), ofStep_result_eq_error_iff]
  refine or_congr_right ?_
  have hlength : ∀ {values : List Text},
      List.Forall₂ (fun t a => (resolve t site cache).result = .ok a) (d.targets line) values →
      values.length = (Template.ofLine d line).holes.length := by
    intro values h
    rw [← h.length_eq, targets_eq_map_holes, List.length_map]
  constructor
  · rintro ⟨values, hvalues, b, hstop, hrender⟩
    exact ⟨b, hstop, ⟨values, hvalues⟩, (Template.render_eq_error_iff (hlength hvalues)).mp hrender⟩
  · rintro ⟨b, hstop, ⟨values, hvalues⟩, hbreach⟩
    exact ⟨values, hvalues, b, hstop, (Template.render_eq_error_iff (hlength hvalues)).mpr hbreach⟩

/-- The placeholders of a dialect in a text have values, and one of them has an indentation that memory
cannot be addressed for. -/
def Overflows (site : Site) (cache : Cache) (d : Dialect) (text : Text) (b : Breach) : Prop :=
  (∃ values, List.Forall₂ (Value site cache) (d.targets text) values) ∧
    (Template.ofLine d text).breach? = some b

/-- A setting holds secrets that cannot be filled in since an indentation is too wide. -/
def SettingOverflows (site : Site) (cache : Cache) (b : Breach) : Target → Prop
  | .secret _ _ => False
  | .setting key => ∃ s, (Action.settings site cache).result = .ok s ∧
      Overflows site cache .secret ((s.get? key).getD []) b

/-- Filling a line breaks off: one of its own indentations is too wide, or it names a setting in which
there is such an indentation. -/
inductive BreaksOff (site : Site) (cache : Cache) (line : Text) (b : Breach) : Prop
  | line {d : Dialect} (filled : dialect? line = some d) (overflows : Overflows site cache d line b)
  | setting {d : Dialect} (filled : dialect? line = some d)
      (reached : StopsIn (Value site cache) (SettingOverflows site cache b) (d.targets line))

theorem not_breaksOff_of_no_dialect (h : dialect? line = none) : ¬BreaksOff site cache line b := by
  rintro (⟨hd, -⟩ | ⟨hd, -⟩)
  · rw [h] at hd
    contradiction
  · rw [h] at hd
    contradiction

theorem breaksOff_iff (h : dialect? line = some d) :
    BreaksOff site cache line b ↔
      StopsIn (Value site cache) (SettingOverflows site cache b) (d.targets line) ∨
        Overflows site cache d line b := by
  constructor
  · rintro (⟨hd, hoverflows⟩ | ⟨hd, hreached⟩)
    · obtain rfl := Option.some.inj (h.symm.trans hd)
      exact Or.inr hoverflows
    · obtain rfl := Option.some.inj (h.symm.trans hd)
      exact Or.inl hreached
  · rintro (hreached | hoverflows)
    · exact .setting h hreached
    · exact .line h hoverflows

/-- A line that is filled with secrets names no settings. -/
theorem not_stopsIn_secret :
    ¬StopsIn (Value site cache) (SettingOverflows site cache b) (Dialect.secret.targets line) := by
  intro h
  obtain ⟨t, hmem, hstops⟩ := h.exists_mem
  cases t with
  | secret path key => exact hstops
  | setting key => exact absurd (dialect_of_mem_targets hmem) (by simp [Target.dialect])

/-- Filling breaks off as looking something up does, or on a line modifier. -/
theorem fillLine_eq_breach_iff
    (hdeep : ∀ t ∈ d.targets line, (resolveDeep t site cache).result = .error (.breach b) ↔
      SettingOverflows site cache b t) :
    (fillLine d resolveDeep line site cache).result = .error (.breach b) ↔
      StopsIn (Value site cache) (SettingOverflows site cache b) (d.targets line) ∨
        Overflows site cache d line b := by
  rw [fillLine_result_eq_error_iff steady_resolveDeep, Overflows]
  simp only [← value_iff, Stop.breach.injEq, exists_eq_left']
  exact or_congr_left (stopsIn_congr hdeep)

theorem resolveDeep_secret_ne_breach (path key : Text) :
    (resolveDeep (.secret path key) site cache).result ≠ .error (.breach b) :=
  withinBounds_resolveSecret path key site cache b

theorem fillSecrets_eq_breach_iff {text : Text} :
    (fillSecrets text site cache).result = .error (.breach b) ↔
      Overflows site cache .secret text b := by
  have hdeep : ∀ t ∈ Dialect.secret.targets text,
      (resolveDeep t site cache).result = .error (.breach b) ↔ SettingOverflows site cache b t := by
    intro t ht
    cases t with
    | secret path key => exact iff_of_false (resolveDeep_secret_ne_breach path key) not_false
    | setting key => exact absurd (dialect_of_mem_targets ht) (by simp [Target.dialect])
  rw [fillSecrets_eq_fillLine, fillLine_eq_breach_iff hdeep, or_iff_right not_stopsIn_secret]

theorem resolveDeep_eq_breach_iff {t : Target} :
    (resolveDeep t site cache).result = .error (.breach b) ↔ SettingOverflows site cache b t := by
  cases t with
  | secret path key => exact iff_of_false (resolveDeep_secret_ne_breach path key) not_false
  | setting key =>
    have hafter : ∀ t, (fillSecrets t site (resolveReference key site cache).cache).result =
        (fillSecrets t site cache).result :=
      fun t => (composed_resolveReference key).steady.result_after (composed_fillSecrets t).steady
    rw [resolveDeep_setting, bind_result_eq_error_iff,
      or_iff_right (withinBounds_resolveReference key site cache b), SettingOverflows]
    simp only [hafter]
    simp only [fillSecrets_eq_breach_iff, resolveReference, bind_result_eq_ok_iff, pure_apply,
      Except.ok.injEq]
    constructor
    · rintro ⟨_, ⟨s, hs, rfl⟩, hoverflows⟩
      exact ⟨s, hs, hoverflows⟩
    · rintro ⟨s, hs, hoverflows⟩
      exact ⟨_, ⟨s, hs, rfl⟩, hoverflows⟩

/-- A line breaks off just where an indentation is reached that memory cannot be addressed for. -/
theorem processLine_eq_breach_iff :
    (processLine line site cache).result = .error (.breach b) ↔ BreaksOff site cache line b := by
  cases hdialect : dialect? line with
  | none =>
    rw [processLine_of_no_dialect hdialect]
    exact iff_of_false (nomatch ·) (not_breaksOff_of_no_dialect hdialect)
  | some d =>
    rw [processLine_result_eq hdialect, breaksOff_iff hdialect]
    exact fillLine_eq_breach_iff fun t _ => resolveDeep_eq_breach_iff

/-- A line breaks off only on an indentation that has been read as such. -/
theorem BreaksOff.width (h : BreaksOff site cache line b) :
    ∃ width, b = .spaces width ∧ Text.longest < width ∧ width < ParsedModifier.widthLimit := by
  rcases h with ⟨-, -, hbreach⟩ | ⟨-, hreached⟩
  · exact Template.width_of_breach hbreach
  · obtain ⟨t, -, hstops⟩ := hreached.exists_mem
    cases t with
    | secret path key => exact hstops.elim
    | setting key =>
      obtain ⟨s, -, -, hbreach⟩ := hstops
      exact Template.width_of_breach hbreach

end Lines

section Streams

variable [Pattern.Limit] {site : Site} {cache : Cache} {b : Breach}

/-- Filling a stream breaks off at a line that is reached: all lines before it are filled. -/
def StreamBreaksOff (site : Site) (cache : Cache) (lines : List Bytes) (b : Breach) : Prop :=
  ∃ before line after filled text, lines = before ++ line :: after ∧
    (processLines 1 before site cache).result = .ok filled ∧
    Utf8.decode? (chompReturn line) = some text ∧ BreaksOff site cache text b

/-- A line of a stream breaks off as the text in it does. -/
theorem processRaw_eq_breach_iff {number : Nat} {line : Bytes} :
    (processRaw number line site cache).result = .error (.breach b) ↔
      ∃ text, Utf8.decode? (chompReturn line) = some text ∧ BreaksOff site cache text b := by
  cases hdecode : Utf8.decode? (chompReturn line) with
  | some text =>
    rw [processRaw_of_text hdecode, bind_result_eq_error_iff, processLine_eq_breach_iff]
    simp only [pure_apply, reduceCtorEq, and_false, exists_false, or_false, Option.some.injEq,
      exists_eq_left']
  | none =>
    rw [processRaw_of_undecodable hdecode]
    refine iff_of_false ?_ (by simp)
    rw [copyRaw]
    split
    · exact WithinBounds.ofResult _ site cache b
    · simp only [pure_apply, reduceCtorEq, not_false_eq_true]

/-- A stream breaks off where the first of its lines does that is not filled. -/
theorem processAll_eq_breach_iff {input : Input} :
    (processAll input site cache).result = .error (.breach b) ↔
      StreamBreaksOff site cache input.lines b := by
  have hafter : ∀ (before : List Bytes) text, (processLine text site
      (processLines 1 before site cache).cache).result = (processLine text site cache).result :=
    fun before text => (composed_processLines 1 before).steady.result_after (steady_processLine text)
  rw [processAll_error_iff]
  simp only [reduceCtorEq, and_false, exists_false, or_false, processLines_error_iff,
    processRaw_eq_breach_iff, ← processLine_eq_breach_iff, hafter]
  constructor
  · rintro ⟨before, line, after, filled, hl, hfilled, text, hdecode, hbreaks⟩
    exact ⟨before, line, after, filled, text, hl, hfilled, hdecode, processLine_eq_breach_iff.mp hbreaks⟩
  · rintro ⟨before, line, after, filled, text, hl, hfilled, hdecode, hbreaks⟩
    exact ⟨before, line, after, filled, hl, hfilled, text, hdecode, processLine_eq_breach_iff.mpr hbreaks⟩

end Streams

end Infill
