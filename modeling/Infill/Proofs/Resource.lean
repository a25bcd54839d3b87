import Infill.Proofs.Action

/-!
# Resources

The session and the settings are resources: each is loaded from its own part of the world when it is
needed for the first time, and then kept.  An action either does without a resource, or it needs it
and goes on with the value it gets or fails as loading fails (`Handles`).  Composed actions treat
both resources so, and that is all that has to be known of them to follow what is loaded.
-/

namespace Infill

open Infill.Action

/-- What comes of going on from an outcome. -/
def Outcome.andThen {α β : Type} (out : Outcome α) (f : α → Action β) (site : Site) : Outcome β :=
  match out.result with
  | .error e => { result := .error e, cache := out.cache, events := out.events }
  | .ok a =>
    { f a site out.cache with events := out.events ++ (f a site out.cache).events }

theorem Action.bind_eq_andThen {α β : Type} (x : Action α) (f : α → Action β) (site : Site)
    (cache : Cache) : (x >>= f) site cache = (x site cache).andThen f site := rfl

/-- An outcome with a text in place of something that is not there. -/
def Outcome.orIfMissing (out : Outcome Text) (fallback : Text) : Outcome Text :=
  match out.result with
  | .error stop => if stop.isNotFound then { out with result := .ok fallback } else out
  | .ok _ => out

theorem Action.orIfMissing_eq (x : Action Text) (fallback : Text) (site : Site) (cache : Cache) :
    x.orIfMissing fallback site cache = (x site cache).orIfMissing fallback := rfl

/-- What is loaded from the world and then kept. -/
inductive Resource
  | session
  | settings

namespace Resource

def Value : Resource → Type
  | session => Session
  | settings => Settings

/-- The part of the world that a resource is loaded from. -/
def Source : Resource → Type
  | session => Environment
  | settings => Disk

def source : (r : Resource) → Site → r.Source
  | session, site => site.world.environment
  | settings, site => site.world.disk

/-- The site with another source of the resource. -/
def withSource : (r : Resource) → r.Source → Site → Site
  | session, environment, site => { site with world := { site.world with environment } }
  | settings, disk, site => { site with world := { site.world with disk } }

def load : (r : Resource) → Site → Except Failure r.Value
  | session, site => Session.ofEnvironment site.world.environment
  | settings, site => Settings.load site.world.disk site.settingsPath

/-- What has been loaded of the resource. -/
def held : (r : Resource) → Cache → Option r.Value
  | session, cache => cache.session
  | settings, cache => cache.settings

/-- The cache with something else in the place of what has been loaded of the resource. -/
def hold : (r : Resource) → Option r.Value → Cache → Cache
  | session, value, cache => { cache with session := value }
  | settings, value, cache => { cache with settings := value }

/-- The resource, which is loaded when it is needed for the first time. -/
def fetch : (r : Resource) → Action r.Value
  | session => Action.session
  | settings => Action.settings

section Laws

variable {r r' : Resource} {site : Site} {cache : Cache}

@[simp] theorem held_hold (value : Option r.Value) : r.held (r.hold value cache) = value := by
  cases r <;> rfl

@[simp] theorem hold_held : r.hold (r.held cache) cache = cache := by
  cases r <;> rfl

@[simp] theorem hold_hold (value value' : Option r.Value) :
    r.hold value (r.hold value' cache) = r.hold value cache := by
  cases r <;> rfl

@[simp] theorem withSource_source : r.withSource (r.source site) site = site := by
  cases r <;> rfl

@[simp] theorem answer_withSource (source : r.Source) :
    (r.withSource source site).world.answer = site.world.answer := by
  cases r <;> rfl

theorem fetch_of_held {value : r.Value} (h : r.held cache = some value) :
    r.fetch site cache = { result := .ok value, cache, events := [] } := by
  cases r with
  | session =>
    have hsession : cache.session = some value := h
    simp only [fetch, Action.session, hsession]
    rfl
  | settings =>
    have hsettings : cache.settings = some value := h
    simp only [fetch, Action.settings, hsettings]
    rfl

theorem fetch_of_not_held (h : r.held cache = none) :
    r.fetch site cache =
      match r.load site with
      | .ok value => { result := .ok value, cache := r.hold (some value) cache, events := [] }
      | .error f => { result := .error (.failure f), cache, events := [] } := by
  cases r with
  | session =>
    have hsession : cache.session = none := h
    simp only [fetch, Action.session, hsession, load]
    cases Session.ofEnvironment site.world.environment <;> rfl
  | settings =>
    have hsettings : cache.settings = none := h
    simp only [fetch, Action.settings, hsettings, load]
    cases Settings.load site.world.disk site.settingsPath <;> rfl

theorem fetch_bind_of_held {β : Type} {value : r.Value} (h : r.held cache = some value)
    (next : r.Value → Action β) : (r.fetch >>= next) site cache = next value site cache := by
  rw [bind_eq_andThen, fetch_of_held h]
  rfl

/-- What begins with a resource goes on with its value, which is there from then on. -/
theorem fetch_bind_of_ok {β : Type} {value : r.Value}
    (h : (r.fetch site cache).result = .ok value) (next : r.Value → Action β) :
    (r.fetch >>= next) site cache = next value site (r.hold (some value) cache) := by
  rw [bind_eq_andThen]
  cases hheld : r.held cache with
  | some other =>
    rw [fetch_of_held hheld] at h ⊢
    obtain rfl := Except.ok.inj h
    rw [← hheld, hold_held]
    rfl
  | none =>
    rw [fetch_of_not_held hheld] at h ⊢
    cases hload : r.load site with
    | error f => simp only [hload, reduceCtorEq] at h
    | ok other =>
      rw [hload] at h
      obtain rfl := Except.ok.inj h
      rfl

/-- What begins with a resource fails as loading it fails. -/
theorem fetch_bind_of_error {β : Type} {stop : Stop Failure}
    (h : (r.fetch site cache).result = .error stop) (next : r.Value → Action β) :
    (r.fetch >>= next) site cache = { result := .error stop, cache, events := [] } := by
  rw [bind_eq_andThen]
  cases hheld : r.held cache with
  | some other =>
    rw [fetch_of_held hheld] at h
    contradiction
  | none =>
    rw [fetch_of_not_held hheld] at h ⊢
    cases hload : r.load site with
    | ok other => simp only [hload, reduceCtorEq] at h
    | error other =>
      rw [hload] at h
      obtain rfl := Except.error.inj h
      rfl

/-- Resources have nothing to do with each other. -/
theorem fetch_other (hne : r ≠ r') (source : r.Source) (value : Option r.Value) :
    r'.fetch (r.withSource source site) (r.hold value cache) =
      { r'.fetch site cache with cache := r.hold value (r'.fetch site cache).cache } := by
  obtain ⟨session, settings⟩ := cache
  cases r' with
  | session =>
    cases r with
    | session => exact absurd rfl hne
    | settings =>
      cases session with
      | some s => rfl
      | none =>
        simp only [fetch, Action.session, hold, withSource]
        cases Session.ofEnvironment site.world.environment <;> rfl
  | settings =>
    cases r with
    | settings => exact absurd rfl hne
    | session =>
      cases settings with
      | some s => rfl
      | none =>
        simp only [fetch, Action.settings, hold, withSource]
        cases Settings.load site.world.disk site.settingsPath <;> rfl

theorem isNotFound_of_load {f : Failure} (h : r.load site = .error f) : f.isNotFound = false := by
  cases r with
  | session =>
    have hrequired : ∀ {e : Environment} {name : Text} {f : Failure},
        Session.required e name = .error f → f.isNotFound = false := by
      intro e name f h
      rw [Session.required] at h
      split at h
      · exact Except.error.inj h ▸ rfl
      · exact Except.error.inj h ▸ rfl
      · contradiction
    simp only [load, Session.ofEnvironment] at h
    split at h
    · next hhost => exact Except.error.inj h ▸ hrequired hhost
    · split at h
      · next htoken => exact Except.error.inj h ▸ hrequired htoken
      · contradiction
  | settings =>
    simp only [load, Settings.load] at h
    split at h
    · exact Except.error.inj h ▸ rfl
    · split at h
      · exact Except.error.inj h ▸ rfl
      · split at h
        · contradiction
        · exact Except.error.inj h ▸ rfl

/-- Loading fails in more than one way: without the address or without the token of the secret
store, and with nothing or with a directory in the place of the key-value file. -/
theorem exists_load_error_ne (r : Resource) (site : Site) :
    ∃ source source' f f', r.load (r.withSource source site) = .error f ∧
      r.load (r.withSource source' site) = .error f' ∧ f ≠ f' := by
  cases r with
  | session =>
    exact ⟨[], [(Session.hostVariable, ['h'])], .configurationMissing Session.hostVariable,
      .configurationMissing Session.tokenVariable, rfl, rfl, by decide⟩
  | settings =>
    refine ⟨{ wording := fun _ _ _ => [] },
      { directories := [site.settingsPath.location], wording := fun _ _ _ => [] },
      .sourceUnreadable site.settingsPath "file does not exist".toList,
      .sourceUnreadable site.settingsPath "path is a directory".toList, rfl, ?_, by simp⟩
    simp [load, withSource, Settings.load, Settings.unusable?, Disk.isThere, Disk.isDirectory,
      Disk.locate]
    rfl

end Laws

section Handling

variable {α β : Type} {r : Resource} {site : Site} {cache : Cache}

/-- What an action does about a resource at a site, wherever the resource comes from: it does
without it, or it goes on with the value it gets and fails as loading fails. -/
inductive Handles {α : Type} (r : Resource) (x : Action α) (site : Site) (cache : Cache) : Prop
  | spares (out : Outcome α)
      (same : ∀ source value, x (r.withSource source site) (r.hold value cache) =
        { out with cache := r.hold value out.cache })
  | needs (use : r.Value → Outcome α) (before : Cache) (events : List Event)
      (keeps : ∀ value, r.held (use value).cache = some value)
      (held : ∀ source value,
        x (r.withSource source site) (r.hold (some value) cache) = use value)
      (loads : ∀ source value, r.load (r.withSource source site) = .ok value →
        x (r.withSource source site) (r.hold none cache) = use value)
      (fails : ∀ source f, r.load (r.withSource source site) = .error f →
        x (r.withSource source site) (r.hold none cache) =
          { result := .error (.failure f), cache := r.hold none before, events })

/-- An action needs a resource if it makes a difference, when nothing has been loaded of it, what it
is loaded from. -/
def Needs (r : Resource) (x : Action α) (site : Site) (cache : Cache) : Prop :=
  ∃ source source', x (r.withSource source site) (r.hold none cache) ≠
    x (r.withSource source' site) (r.hold none cache)

namespace Handles

variable {x : Action α}

/-- What has been loaded is kept, and it does not matter any more what it was loaded from. -/
theorem of_held (h : r.Handles x site cache) {value : r.Value} (hvalue : r.held cache = some value)
    (source : r.Source) :
    x (r.withSource source site) cache = x site cache ∧
      r.held (x site cache).cache = some value := by
  have hcache : r.hold (some value) cache = cache := by rw [← hvalue, hold_held]
  cases h with
  | spares out same =>
    have hany := fun source => same source (some value)
    have hhere := hany (r.source site)
    simp only [hcache, withSource_source] at hany hhere
    rw [hany, hhere]
    exact ⟨rfl, held_hold _⟩
  | needs use before events keeps held =>
    have hany := fun source => held source value
    have hhere := hany (r.source site)
    simp only [hcache, withSource_source] at hany hhere
    rw [hany, hhere]
    exact ⟨rfl, keeps value⟩

/-- What is needed is loaded now, or the action fails as loading fails. -/
theorem of_needs (h : r.Handles x site cache) (hneeds : r.Needs x site cache)
    (hnone : r.held cache = none) :
    (∀ value, r.load site = .ok value → r.held (x site cache).cache = some value) ∧
      ∀ f, r.load site = .error f →
        (x site cache).result = .error (.failure f) ∧ r.held (x site cache).cache = none := by
  have hcache : r.hold none cache = cache := by rw [← hnone, hold_held]
  cases h with
  | spares out same =>
    obtain ⟨source, source', hne⟩ := hneeds
    exact absurd ((same source none).trans (same source' none).symm) hne
  | needs use before events keeps held loads fails =>
    have hloads := loads (r.source site)
    have hfails := fails (r.source site)
    rw [withSource_source, hcache] at hloads hfails
    constructor
    · intro value hload
      rw [hloads value hload]
      exact keeps value
    · intro f hload
      rw [hfails f hload]
      exact ⟨rfl, held_hold _⟩

/-- What is not needed is not loaded. -/
theorem of_not_needs (h : r.Handles x site cache) (hneeds : ¬ r.Needs x site cache)
    (hnone : r.held cache = none) : r.held (x site cache).cache = none := by
  have hcache : r.hold none cache = cache := by rw [← hnone, hold_held]
  cases h with
  | spares out same =>
    have hhere := same (r.source site) none
    rw [withSource_source, hcache] at hhere
    rw [hhere]
    exact held_hold _
  | needs use before events keeps held loads fails =>
    obtain ⟨source, source', f, f', hf, hf', hne⟩ := r.exists_load_error_ne site
    refine absurd ⟨source, source', ?_⟩ hneeds
    rw [fails source f hf, fails source' f' hf']
    simp [hne]

theorem fetch (r r' : Resource) (site : Site) (cache : Cache) :
    r.Handles r'.fetch site cache := by
  by_cases hr : r = r'
  · subst hr
    refine .needs
      (fun value => { result := .ok value, cache := r.hold (some value) cache, events := [] })
      cache [] (fun _ => held_hold _) ?_ ?_ ?_
    · intro source value
      exact fetch_of_held (held_hold _)
    · intro source value hload
      rw [fetch_of_not_held (held_hold _), hload]
      simp only [hold_hold]
    · intro source f hload
      rw [fetch_of_not_held (held_hold _), hload]
  · exact .spares _ (fetch_other hr)

theorem bind {f : α → Action β} (hx : r.Handles x site cache)
    (hf : ∀ a cache, r.Handles (f a) site cache) : r.Handles (x >>= f) site cache := by
  cases hx with
  | spares out same =>
    cases hout : out.result with
    | error e =>
      refine .spares { result := .error e, cache := out.cache, events := out.events } ?_
      intro source value
      have hresult : (x (r.withSource source site) (r.hold value cache)).result = .error e := by
        rw [same, hout]
      rw [bind_of_error hresult, same]
    | ok a =>
      have hresult : ∀ source value,
          (x (r.withSource source site) (r.hold value cache)).result = .ok a := by
        intro source value
        rw [same, hout]
      cases hf a out.cache with
      | spares next same' =>
        refine .spares { next with events := out.events ++ next.events } ?_
        intro source value
        rw [bind_of_ok (hresult _ _), same, same']
      | needs use before events keeps held loads fails =>
        refine .needs (fun value => { use value with events := out.events ++ (use value).events })
          before (out.events ++ events) keeps ?_ ?_ ?_
        · intro source value
          rw [bind_of_ok (hresult _ _), same, held]
        · intro source value hload
          rw [bind_of_ok (hresult _ _), same, loads source value hload]
        · intro source e hload
          rw [bind_of_ok (hresult _ _), same, fails source e hload]
  | needs use before events keeps held loads fails =>
    -- What comes after the first action has the resource at hand, so it is the same at all sources.
    have hrest : ∀ source cache' value, x (r.withSource source site) cache' = use value →
        (x >>= f) (r.withSource source site) cache' = (use value).andThen f site := by
      intro source cache' value hx
      rw [bind_eq_andThen, hx, Outcome.andThen, Outcome.andThen]
      cases (use value).result with
      | error e => rfl
      | ok a => simp only [((hf a _).of_held (keeps value) source).1]
    refine .needs (fun value => (use value).andThen f site) before events ?_ ?_ ?_ ?_
    · intro value
      rw [Outcome.andThen]
      cases (use value).result with
      | error e => exact keeps value
      | ok a => exact ((hf a _).of_held (keeps value) (r.source site)).2
    · intro source value
      exact hrest source _ value (held source value)
    · intro source value hload
      exact hrest source _ value (loads source value hload)
    · intro source e hload
      rw [bind_eq_andThen, fails source e hload, Outcome.andThen]

theorem orIfMissing {x : Action Text} (hx : r.Handles x site cache) (fallback : Text) :
    r.Handles (x.orIfMissing fallback) site cache := by
  cases hx with
  | spares out same =>
    refine .spares (out.orIfMissing fallback) ?_
    intro source value
    rw [orIfMissing_eq, same]
    cases h : out.result with
    | ok t => simp only [Outcome.orIfMissing, h]
    | error f =>
      simp only [Outcome.orIfMissing, h]
      split
      · rfl
      · simp only [h]
  | needs use before events keeps held loads fails =>
    refine .needs (fun value => (use value).orIfMissing fallback) before events ?_ ?_ ?_ ?_
    · intro value
      rw [Outcome.orIfMissing]
      split
      · split
        · exact keeps value
        · exact keeps value
      · exact keeps value
    · intro source value
      rw [orIfMissing_eq, held]
    · intro source value hload
      rw [orIfMissing_eq, loads source value hload]
    · intro source e hload
      -- A failure to load is fatal, so nothing is put in its place.
      rw [orIfMissing_eq, fails source e hload, Outcome.orIfMissing]
      simp only [Stop.isNotFound, isNotFound_of_load hload, Bool.false_eq_true, if_false]

end Handles

end Handling

end Resource

theorem Action.Composed.handles {α : Type} {x : Action α} (hx : Composed x) (r : Resource)
    (site : Site) (cache : Cache) : r.Handles x site cache := by
  induction hx generalizing site cache with
  | pure a => exact .spares { result := .ok a, cache, events := [] } fun _ _ => rfl
  | ofResult result => exact .spares (Action.ofResult result site cache) fun _ _ => rfl
  | ofStep step => exact .spares (Action.ofStep step site cache) fun _ _ => rfl
  | emit e => exact .spares { result := .ok (), cache, events := [e] } fun _ _ => rfl
  | ask request =>
    refine .spares (Action.ask request site cache) fun source value => ?_
    simp only [Action.ask, Resource.answer_withSource]
  | session => exact .fetch r .session site cache
  | settings => exact .fetch r .settings site cache
  | bind _ _ ihx ihf => exact .bind (ihx site cache) fun a cache => ihf a site cache
  | orIfMissing _ fallback ih => exact .orIfMissing (ih site cache) fallback

end Infill
