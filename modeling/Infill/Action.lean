import Infill.Disk.Basic
import Infill.Secret.Store
import Infill.Settings.File

/-!
# Actions

An action takes place in a world: files, environment variables and the secret store.  It may load
the session and the settings, which are kept for later, it may fail, and it leaves a trace of the
requests made and the warnings given.

An action comes to a value, or it fails, or it is broken off by a step out of bounds.  However it
ends, what has been loaded, asked and said until then stays.
-/

namespace Infill

/-- What a run depends on. -/
structure World where
  disk : Disk
  environment : Environment
  /-- The answer of the secret store to a request, or the reason why there is none. -/
  answer : Request → Except Text Response

/-- Where an action takes place: a world, and the key-value file to be used. -/
structure Site where
  world : World
  settingsPath : Path

/-- What has been loaded. -/
structure Cache where
  session : Option Session := none
  settings : Option Settings := none
deriving DecidableEq, Repr

/-- Something that can be seen of an action from outside. -/
inductive Event
  | request (r : Request)
  | warning (line : Text)
deriving DecidableEq, Repr

/-- What has come of an action. -/
structure Outcome (α : Type) where
  result : Except (Stop Failure) α
  cache : Cache
  events : List Event

/-- Something that is done at a site with what has been loaded so far. -/
def Action (α : Type) : Type := Site → Cache → Outcome α

namespace Action

/-- Gives a value. -/
protected def pure {α : Type} (a : α) : Action α := fun _ cache =>
  { result := .ok a, cache, events := [] }

/-- Does one action after another, unless the first one comes to no value. -/
protected def bind {α β : Type} (x : Action α) (f : α → Action β) : Action β := fun site cache =>
  let first := x site cache
  match first.result with
  | .error stop => { result := .error stop, cache := first.cache, events := first.events }
  | .ok a =>
    let next := f a site first.cache
    { next with events := first.events ++ next.events }

instance : Monad Action where
  pure := Action.pure
  bind := Action.bind

/-- Gives a result that is already there. -/
def ofResult {α : Type} (result : Except Failure α) : Action α := fun _ cache =>
  { result := result.mapError .failure, cache, events := [] }

/-- Takes a step that has a result within bounds. -/
def ofStep {α : Type} (step : Except Breach α) : Action α := fun _ cache =>
  { result := step.mapError .breach, cache, events := [] }

/-- Fails. -/
def fail {α : Type} (f : Failure) : Action α := ofResult (.error f)

/-- Leaves an event. -/
def emit (e : Event) : Action Unit := fun _ cache => { result := .ok (), cache, events := [e] }

/-- The session, which is loaded when it is needed for the first time. -/
def session : Action Session := fun site cache =>
  match cache.session with
  | some s => { result := .ok s, cache, events := [] }
  | none =>
    match Session.ofEnvironment site.world.environment with
    | .ok s => { result := .ok s, cache := { cache with session := some s }, events := [] }
    | .error f => { result := .error (.failure f), cache, events := [] }

/-- The settings, which are loaded when they are needed for the first time. -/
def settings : Action Settings := fun site cache =>
  match cache.settings with
  | some s => { result := .ok s, cache, events := [] }
  | none =>
    match Settings.load site.world.disk site.settingsPath with
    | .ok s => { result := .ok s, cache := { cache with settings := some s }, events := [] }
    | .error f => { result := .error (.failure f), cache, events := [] }

/-- Asks the secret store. -/
def ask (r : Request) : Action Response := fun site cache =>
  { result :=
      match site.world.answer r with
      | .ok response => .ok response
      | .error reason => .error (.failure (.transport reason))
    cache
    events := [.request r] }

/-- Gives a text instead of failing if something is not there. -/
def orIfMissing (x : Action Text) (fallback : Text) : Action Text := fun site cache =>
  let outcome := x site cache
  match outcome.result with
  | .error stop => if stop.isNotFound then { outcome with result := .ok fallback } else outcome
  | .ok _ => outcome

end Action

end Infill
