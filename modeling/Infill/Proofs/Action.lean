import Infill.Stream

/-!
# Actions and what has been loaded

Actions form a lawful monad, and a sequence of two actions comes to what `bind_of_ok` and
`bind_of_error` say.  `Composed` tells what lines and streams are made of, so that a law of actions
has to be shown for the parts only.  An action is `Steady` if it makes no difference to what can be
seen of it how much has been loaded before at the same site; composed actions are steady.
-/

namespace Infill

/-- The cache holds what `base` holds, and beyond that at most what loading at the site gives. -/
structure Cache.Extends (site : Site) (cache base : Cache) : Prop where
  session : cache.session = base.session ∨
    base.session = none ∧ ∃ s, Session.ofEnvironment site.world.environment = .ok s ∧
      cache.session = some s
  settings : cache.settings = base.settings ∨
    base.settings = none ∧ ∃ s, Settings.load site.world.disk site.settingsPath = .ok s ∧
      cache.settings = some s

theorem Cache.Extends.refl (site : Site) (base : Cache) : base.Extends site base :=
  ⟨Or.inl rfl, Or.inl rfl⟩

namespace Action

variable {α β : Type} {site : Site} {cache : Cache}

theorem pure_apply (a : α) :
    (pure a : Action α) site cache = { result := .ok a, cache, events := [] } := rfl

theorem bind_of_ok {x : Action α} {f : α → Action β} {a : α}
    (h : (x site cache).result = .ok a) :
    (x >>= f) site cache =
      { f a site (x site cache).cache with
        events := (x site cache).events ++ (f a site (x site cache).cache).events } := by
  show Action.bind x f site cache = _
  simp only [Action.bind, h]

theorem bind_of_error {x : Action α} {f : α → Action β} {e : Stop Failure}
    (h : (x site cache).result = .error e) :
    (x >>= f) site cache =
      { result := .error e, cache := (x site cache).cache, events := (x site cache).events } := by
  show Action.bind x f site cache = _
  simp only [Action.bind, h]

theorem bind_result_eq_ok_iff {x : Action α} {f : α → Action β} {b : β} :
    ((x >>= f) site cache).result = .ok b ↔
      ∃ a, (x site cache).result = .ok a ∧ (f a site (x site cache).cache).result = .ok b := by
  cases h : (x site cache).result with
  | error e => simp [bind_of_error h]
  | ok a => simp [bind_of_ok h]

theorem bind_result_eq_error_iff {x : Action α} {f : α → Action β} {e : Stop Failure} :
    ((x >>= f) site cache).result = .error e ↔ (x site cache).result = .error e ∨
      ∃ a, (x site cache).result = .ok a ∧ (f a site (x site cache).cache).result = .error e := by
  cases h : (x site cache).result with
  | error e => simp [bind_of_error h]
  | ok a => simp [bind_of_ok h]

theorem result_bind_pure (x : Action α) (g : α → β) :
    ((x >>= fun a => pure (g a)) site cache).result = (x site cache).result.map g := by
  cases h : (x site cache).result with
  | error e => rw [bind_of_error h, Except.map]
  | ok a => rw [bind_of_ok h, pure_apply, Except.map]

theorem events_bind_pure (x : Action α) (g : α → β) :
    ((x >>= fun a => pure (g a)) site cache).events = (x site cache).events := by
  cases h : (x site cache).result with
  | error e => rw [bind_of_error h]
  | ok a => rw [bind_of_ok h, pure_apply, List.append_nil]

theorem cache_bind_pure (x : Action α) (g : α → β) :
    ((x >>= fun a => pure (g a)) site cache).cache = (x site cache).cache := by
  cases h : (x site cache).result with
  | error e => rw [bind_of_error h]
  | ok a => rw [bind_of_ok h, pure_apply]

theorem ofStep_apply (step : Except Breach α) :
    ofStep step site cache = { result := step.mapError .breach, cache, events := [] } := rfl

theorem ofStep_ok (a : α) :
    ofStep (.ok a) site cache = { result := .ok a, cache, events := [] } := rfl

theorem ofStep_error (b : Breach) :
    (ofStep (.error b) site cache : Outcome α) =
      { result := .error (.breach b), cache, events := [] } := rfl

theorem ofStep_result_eq_ok_iff {step : Except Breach α} {a : α} :
    (ofStep step site cache).result = .ok a ↔ step = .ok a := by
  cases step with
  | error b => simp only [ofStep_error, reduceCtorEq]
  | ok t => simp only [ofStep_ok, Except.ok.injEq]

theorem ofStep_result_eq_error_iff {step : Except Breach α} {stop : Stop Failure} :
    (ofStep step site cache).result = .error stop ↔ ∃ b, stop = .breach b ∧ step = .error b := by
  cases step with
  | error first => simp only [ofStep_error, Except.error.injEq, exists_eq_right', eq_comm]
  | ok t => simp only [ofStep_ok, reduceCtorEq, and_false, exists_false]

theorem orIfMissing_of_ok {x : Action Text} {t : Text} (h : (x site cache).result = .ok t)
    (fallback : Text) : x.orIfMissing fallback site cache = x site cache := by
  simp only [orIfMissing, h]

theorem orIfMissing_of_error {x : Action Text} {e : Stop Failure}
    (h : (x site cache).result = .error e) (fallback : Text) :
    x.orIfMissing fallback site cache =
      if e.isNotFound then { x site cache with result := .ok fallback } else x site cache := by
  simp only [orIfMissing, h]

theorem bind_pure_comp_id (x : Action α) : x >>= pure = x := by
  funext site cache
  cases h : (x site cache).result with
  | error e => rw [bind_of_error h, ← h]
  | ok a => rw [bind_of_ok h, pure_apply, List.append_nil, ← h]

theorem bind_assoc_action {γ : Type} (x : Action α) (f : α → Action β) (g : β → Action γ) :
    x >>= f >>= g = x >>= fun a => f a >>= g := by
  funext site cache
  cases h : (x site cache).result with
  | error e =>
    have h' : ((x >>= f) site cache).result = .error e := by rw [bind_of_error h]
    rw [bind_of_error h', bind_of_error h, bind_of_error h]
  | ok a =>
    cases hf : (f a site (x site cache).cache).result with
    | error e =>
      have h' : ((x >>= f) site cache).result = .error e := by rw [bind_of_ok h, hf]
      rw [bind_of_error h', bind_of_ok h, bind_of_ok h, bind_of_error hf]
    | ok b =>
      have h' : ((x >>= f) site cache).result = .ok b := by rw [bind_of_ok h, hf]
      rw [bind_of_ok h', bind_of_ok h, bind_of_ok h, bind_of_ok hf, List.append_assoc]

instance : LawfulMonad Action :=
  LawfulMonad.mk' Action bind_pure_comp_id (fun _ _ => rfl) bind_assoc_action

/-- What has been loaded before at the same site makes no difference to the result of the action and
its trace, and the action loads nothing but what the site gives. -/
def Steady (x : Action α) : Prop :=
  ∀ site base cache, cache.Extends site base →
    (x site cache).result = (x site base).result ∧ (x site cache).events = (x site base).events ∧
      (x site cache).cache.Extends site base

namespace Steady

theorem pure (a : α) : Steady (pure a) := fun _ _ _ h => ⟨rfl, rfl, h⟩

theorem ofResult (r : Except Failure α) : Steady (Action.ofResult r) := fun _ _ _ h => ⟨rfl, rfl, h⟩

theorem ofStep (r : Except Breach α) : Steady (Action.ofStep r) := fun _ _ _ h => ⟨rfl, rfl, h⟩

theorem emit (e : Event) : Steady (Action.emit e) := fun _ _ _ h => ⟨rfl, rfl, h⟩

theorem ask (r : Request) : Steady (Action.ask r) := fun _ _ _ h => ⟨rfl, rfl, h⟩

theorem bind {x : Action α} {f : α → Action β} (hx : Steady x) (hf : ∀ a, Steady (f a)) :
    Steady (x >>= f) := by
  intro site base cache h
  obtain ⟨hresult, hevents, hcache⟩ := hx site base cache h
  obtain ⟨-, -, hbase⟩ := hx site base base (.refl site base)
  cases hb : (x site base).result with
  | error e =>
    rw [bind_of_error hb, bind_of_error (hresult.trans hb)]
    exact ⟨rfl, hevents, hcache⟩
  | ok a =>
    -- Both caches after the first action are compared with the base, not with each other.
    obtain ⟨hresult', hevents', hcache'⟩ := hf a site base _ hcache
    obtain ⟨hresult'', hevents'', -⟩ := hf a site base _ hbase
    rw [bind_of_ok hb, bind_of_ok (hresult.trans hb)]
    exact ⟨hresult'.trans hresult''.symm, by simp [hevents, hevents', hevents''], hcache'⟩

theorem orIfMissing {x : Action Text} (hx : Steady x) (fallback : Text) :
    Steady (x.orIfMissing fallback) := by
  intro site base cache h
  obtain ⟨hresult, hevents, hcache⟩ := hx site base cache h
  cases hb : (x site base).result with
  | ok a =>
    rw [orIfMissing_of_ok hb, orIfMissing_of_ok (hresult.trans hb)]
    exact ⟨hresult, hevents, hcache⟩
  | error e =>
    rw [orIfMissing_of_error hb, orIfMissing_of_error (hresult.trans hb)]
    split
    · exact ⟨rfl, hevents, hcache⟩
    · exact ⟨hresult, hevents, hcache⟩

theorem session : Steady Action.session := by
  intro site base cache h
  rcases h.session with hsame | ⟨hnone, s, hload, hsome⟩
  · unfold Action.session
    rw [hsame]
    cases hb : base.session with
    | some s => exact ⟨rfl, rfl, h⟩
    | none =>
      cases hload : Session.ofEnvironment site.world.environment with
      | error e => exact ⟨rfl, rfl, h⟩
      | ok s => exact ⟨rfl, rfl, Or.inr ⟨hb, s, hload, rfl⟩, h.settings⟩
  · simp only [Action.session, hnone, hsome, hload]
    exact ⟨trivial, trivial, h⟩

theorem settings : Steady Action.settings := by
  intro site base cache h
  rcases h.settings with hsame | ⟨hnone, s, hload, hsome⟩
  · unfold Action.settings
    rw [hsame]
    cases hb : base.settings with
    | some s => exact ⟨rfl, rfl, h⟩
    | none =>
      cases hload : Settings.load site.world.disk site.settingsPath with
      | error e => exact ⟨rfl, rfl, h⟩
      | ok s => exact ⟨rfl, rfl, h.session, Or.inr ⟨hb, s, hload, rfl⟩⟩
  · simp only [Action.settings, hnone, hsome, hload]
    exact ⟨trivial, trivial, h⟩

end Steady

/-- What lines and streams are made of: giving a value, failing, taking a step within bounds, warning,
asking and loading, one after the other, with a text in place of something that is not there. -/
inductive Composed : {α : Type} → Action α → Prop
  | pure {α : Type} (a : α) : Composed (pure a)
  | ofResult {α : Type} (r : Except Failure α) : Composed (Action.ofResult r)
  | ofStep {α : Type} (r : Except Breach α) : Composed (Action.ofStep r)
  | emit (e : Event) : Composed (Action.emit e)
  | ask (r : Request) : Composed (Action.ask r)
  | session : Composed Action.session
  | settings : Composed Action.settings
  | bind {α β : Type} {x : Action α} {f : α → Action β} (first : Composed x)
      (next : ∀ a, Composed (f a)) : Composed (x >>= f)
  | orIfMissing {x : Action Text} (inner : Composed x) (fallback : Text) :
      Composed (x.orIfMissing fallback)

namespace Composed

theorem ite {p : Prop} [Decidable p] {x y : Action α} (hx : Composed x) (hy : Composed y) :
    Composed (if p then x else y) := by
  split
  · exact hx
  · exact hy

theorem map {x : Action α} (hx : Composed x) (f : α → β) : Composed (f <$> x) :=
  .bind hx fun a => .pure (f a)

theorem steady {x : Action α} (hx : Composed x) : Steady x := by
  induction hx with
  | pure a => exact .pure a
  | ofResult r => exact .ofResult r
  | ofStep r => exact .ofStep r
  | emit e => exact .emit e
  | ask r => exact .ask r
  | session => exact .session
  | settings => exact .settings
  | bind _ _ ihx ihf => exact ihx.bind ihf
  | orIfMissing _ fallback ih => exact ih.orIfMissing fallback

end Composed

end Action

open Infill.Action

theorem composed_readField (s : Session) (path key : Text) : Composed (readField s path key) :=
  .bind (.ofResult _) fun r => .bind (.ask r) fun _ => .ofResult _

theorem composed_resolveSecret (path key : Text) : Composed (resolveSecret path key) :=
  .bind .session fun s => (composed_readField s path key).orIfMissing []

theorem composed_resolveReference (key : Text) : Composed (resolveReference key) :=
  .bind .settings fun _ => .pure _

theorem composed_resolvePlain (t : Target) : Composed (resolvePlain t) := by
  cases t with
  | secret path key => exact composed_resolveSecret path key
  | setting key => exact composed_resolveReference key

theorem steady_resolvePlain (t : Target) : Steady (resolvePlain t) :=
  (composed_resolvePlain t).steady

section Lines

variable [Pattern.Limit]

theorem composed_fillHoles {resolve : Target → Action Text} (h : ∀ t, Composed (resolve t))
    (holes : List (Text × Placeholder)) : Composed (fillHoles resolve holes) := by
  induction holes with
  | nil => exact .pure _
  | cons hole holes ih =>
    exact .bind (.bind (h _) fun _ => .pure _) fun _ => .bind ih fun _ => .pure _

theorem composed_fillLine {resolve : Target → Action Text} (h : ∀ t, Composed (resolve t))
    (d : Dialect) (line : Text) : Composed (fillLine d resolve line) :=
  .bind (composed_fillHoles h _) fun _ => .ofStep _

theorem composed_fillSecrets (line : Text) : Composed (fillSecrets line) :=
  composed_fillLine composed_resolvePlain .secret line

theorem composed_resolveDeep (t : Target) : Composed (resolveDeep t) := by
  cases t with
  | secret path key => exact composed_resolveSecret path key
  | setting key =>
    exact .bind (composed_resolveReference key) fun value =>
      .ite (composed_fillSecrets value) (.pure _)

theorem composed_fillReferences (line : Text) : Composed (fillReferences line) :=
  composed_fillLine composed_resolveDeep .reference line

/-- How a line is filled, case by case. -/
theorem processLine_eq (line : Text) :
    processLine line =
      if isComment line then pure line
      else if Dialect.secret.occursIn line then
        if Dialect.reference.occursIn line then
          Action.emit (.warning line) >>= fun _ => fillSecrets line
        else fillSecrets line
      else if Dialect.reference.occursIn line then fillReferences line
      else pure line := rfl

theorem composed_processLine (line : Text) : Composed (processLine line) := by
  have hsecrets := composed_fillSecrets line
  rw [processLine_eq]
  refine .ite (.pure _) (.ite (.ite ?_ hsecrets) (.ite (composed_fillReferences line) (.pure _)))
  exact .bind (.emit _) fun _ => hsecrets

theorem composed_processRaw (number : Nat) (line : Bytes) : Composed (processRaw number line) := by
  simp only [processRaw]
  split
  · exact .bind (composed_processLine _) fun _ => .pure _
  · exact .ite (.ofResult _) (.pure _)

theorem composed_processLines (number : Nat) (lines : List Bytes) :
    Composed (processLines number lines) := by
  induction lines generalizing number with
  | nil => exact .pure _
  | cons line lines ih =>
    exact .bind (composed_processRaw number line) fun _ => .bind (ih _) fun _ => .pure _

theorem composed_processAll (input : Input) : Composed (processAll input) := by
  refine .bind (composed_processLines 1 _) fun filled => ?_
  cases input.fault with
  | some reason => exact .ofResult _
  | none => exact .pure _

theorem steady_resolveDeep (t : Target) : Steady (resolveDeep t) :=
  (composed_resolveDeep t).steady

theorem steady_processLine (line : Text) : Steady (processLine line) :=
  (composed_processLine line).steady

theorem steady_processAll (input : Input) : Steady (processAll input) :=
  (composed_processAll input).steady

end Lines

end Infill
