import Infill.Proofs.Answer
import Infill.Proofs.Run
import Infill.Proofs.Trace

/-!
# Where the token goes

Two worlds that differ in the token only, with a store whose answers do not depend on it, cannot be
told apart by what comes of a run.  All that is different is the token of the requests
(`token_only_in_requests`).  An action is `Blind` if this holds of it step by step: in the other
world it comes to the same with the other token in its place.
-/

namespace Infill

open Infill.Action

/-- Worlds that differ in the token only, with a store that does not look at it. -/
structure World.TokenTwins (w w' : World) (token token' : Text) : Prop where
  disk : w'.disk = w.disk
  environment : ∀ name, name ≠ Session.tokenVariable →
    w'.environment.get? name = w.environment.get? name
  value : w.environment.get? Session.tokenVariable = some token
  value' : w'.environment.get? Session.tokenVariable = some token'
  given : token ≠ []
  given' : token' ≠ []
  answer : w'.answer = w.answer
  blind : ∀ url t t', w.answer { url, token := t } = w.answer { url, token := t' }

/-- The session with another token. -/
def Session.withToken (token : Text) (s : Session) : Session := { s with token }

def Request.withToken (token : Text) (r : Request) : Request := { r with token }

def Event.withToken (token : Text) : Event → Event
  | request r => request (r.withToken token)
  | warning line => warning line

def Cache.withToken (token : Text) (c : Cache) : Cache :=
  { c with session := c.session.map (Session.withToken token) }

def Outcome.withToken {α : Type} (token : Text) (out : Outcome α) : Outcome α :=
  { out with
    cache := out.cache.withToken token
    events := out.events.map (Event.withToken token) }

section Blindness

variable {α β : Type} {site site' : Site} {token token' : Text} {cache : Cache}

/-- From a cache that holds no other token than that of the world, the action leaves no other token,
and in the other world it comes to the same with the other token. -/
def Blind (site site' : Site) (token token' : Text) (x : Action α) : Prop :=
  ∀ cache, cache.withToken token = cache →
    (x site cache).withToken token = x site cache ∧
      x site' (cache.withToken token') = (x site cache).withToken token'

theorem Blind.pure (a : α) : Blind site site' token token' (pure a) := by
  intro cache hcache
  rw [pure_apply, pure_apply, Outcome.withToken, Outcome.withToken, hcache]
  exact ⟨rfl, rfl⟩

theorem Blind.ofResult (r : Except Failure α) :
    Blind site site' token token' (Action.ofResult r) := by
  intro cache hcache
  rw [Action.ofResult, Action.ofResult, Outcome.withToken, Outcome.withToken, hcache]
  exact ⟨rfl, rfl⟩

theorem Blind.ofStep (r : Except Breach α) :
    Blind site site' token token' (Action.ofStep r) := by
  intro cache hcache
  rw [Action.ofStep, Action.ofStep, Outcome.withToken, Outcome.withToken, hcache]
  exact ⟨rfl, rfl⟩

theorem Blind.warn (line : Text) :
    Blind site site' token token' (Action.emit (.warning line)) := by
  intro cache hcache
  rw [Action.emit, Action.emit, Outcome.withToken, Outcome.withToken, hcache]
  exact ⟨rfl, rfl⟩

theorem Blind.bind {x : Action α} {f : α → Action β} (hx : Blind site site' token token' x)
    (hf : ∀ a, Blind site site' token token' (f a)) :
    Blind site site' token token' (x >>= f) := by
  intro cache hcache
  obtain ⟨hbears, hsame⟩ := hx cache hcache
  have hbearsCache : (x site cache).cache.withToken token = (x site cache).cache :=
    congrArg Outcome.cache hbears
  have hbearsEvents : (x site cache).events.map (Event.withToken token) = (x site cache).events :=
    congrArg Outcome.events hbears
  have hresult : (x site' (cache.withToken token')).result = (x site cache).result := by
    rw [hsame]
    rfl
  cases h : (x site cache).result with
  | error e =>
    rw [bind_of_error h, bind_of_error (hresult.trans h), hsame]
    simp only [Outcome.withToken, hbearsCache, hbearsEvents, and_self]
  | ok a =>
    -- Both runs go on with the same value, from caches that are twins again.
    obtain ⟨hbears', hsame'⟩ := hf a _ hbearsCache
    rw [bind_of_ok h, bind_of_ok (hresult.trans h), hsame]
    have hnext : (f a site (x site cache).cache).events.map (Event.withToken token) =
        (f a site (x site cache).cache).events := congrArg Outcome.events hbears'
    have hnextCache : (f a site (x site cache).cache).cache.withToken token =
        (f a site (x site cache).cache).cache := congrArg Outcome.cache hbears'
    simp only [Outcome.withToken, List.map_append, hbearsEvents, hnext, hnextCache, true_and]
    simp only [Outcome.withToken] at hsame'
    rw [hsame']

theorem Blind.mapM {γ : Type} {f : γ → Action α} (hf : ∀ c, Blind site site' token token' (f c))
    (l : List γ) : Blind site site' token token' (l.mapM f) := by
  induction l with
  | nil => exact .pure []
  | cons c l ih =>
    rw [List.mapM_cons]
    exact .bind (hf c) fun _ => .bind ih fun _ => .pure _

end Blindness

section Lookups

variable {site site' : Site} {token token' : Text} {cache : Cache} {s : Session}

theorem Session.ofEnvironment_of_token {e : Environment} (htoken : e.get? tokenVariable = some token)
    (hgiven : token ≠ []) :
    ofEnvironment e = (required e hostVariable).map fun host => { host, token } := by
  rw [ofEnvironment, required_eq_ok_iff.mpr ⟨htoken, hgiven⟩]
  cases required e hostVariable <;> rfl

variable (h : World.TokenTwins site.world site'.world token token')
include h

/-- The sessions of the two worlds differ in the token. -/
theorem ofEnvironment_twins :
    (Session.ofEnvironment site.world.environment).map (Session.withToken token) =
        Session.ofEnvironment site.world.environment ∧
      Session.ofEnvironment site'.world.environment =
        (Session.ofEnvironment site.world.environment).map (Session.withToken token') := by
  have hhost : Session.required site'.world.environment Session.hostVariable =
      Session.required site.world.environment Session.hostVariable := by
    rw [Session.required, Session.required, h.environment _ (by decide)]
  rw [Session.ofEnvironment_of_token h.value h.given,
    Session.ofEnvironment_of_token h.value' h.given', hhost]
  cases Session.required site.world.environment Session.hostVariable <;> exact ⟨rfl, rfl⟩

theorem session_twins (hcache : cache.withToken token = cache) :
    (Action.session site cache).result.map (Session.withToken token) =
        (Action.session site cache).result ∧
      (Action.session site' (cache.withToken token')).result =
        (Action.session site cache).result.map (Session.withToken token') := by
  obtain ⟨hbears, hsame⟩ := ofEnvironment_twins h
  cases hheld : cache.session with
  | some s =>
    have hs : some (s.withToken token) = some s := by
      rw [← hheld, ← congrArg Cache.session hcache, Cache.withToken, hheld]
      rfl
    simp only [Action.session, Cache.withToken, hheld, Option.map_some, Except.map,
      Option.some.inj hs, true_and]
  | none =>
    have hheld' : (cache.withToken token').session = none := by
      rw [Cache.withToken, hheld]
      rfl
    simp only [Action.session, hheld, hheld', hsame]
    cases hload : Session.ofEnvironment site.world.environment with
    | error f => exact ⟨rfl, rfl⟩
    | ok s =>
      rw [hload] at hbears
      have hs : s.withToken token = s := Except.ok.inj hbears
      exact ⟨congrArg Except.ok hs, rfl⟩

omit h in
theorem request_withToken (s : Session) (path : Text) :
    Secret.request (s.withToken token) path =
      (Secret.request s path).map (Request.withToken token) := by
  have hurl : Secret.url (s.withToken token) path = Secret.url s path := rfl
  rw [Secret.request, Secret.request, hurl]
  cases Secret.url s path <;> rfl

/-- A session with another token reads the same. -/
theorem read_twins (s : Session) (path key : Text) :
    Secret.read site'.world.answer (s.withToken token') path key =
      Secret.read site.world.answer s path key := by
  rw [Secret.read, Secret.read, request_withToken, h.answer]
  cases Secret.request s path with
  | error f => rfl
  | ok r =>
    have hanswer : site.world.answer (r.withToken token') = site.world.answer r :=
      h.blind r.url token' r.token
    simp only [Except.map, hanswer]

omit h in
theorem orIfMissing_withToken (out : Outcome Text) (fallback : Text) :
    (out.orIfMissing fallback).withToken token = (out.withToken token).orIfMissing fallback := by
  simp only [Outcome.orIfMissing, Outcome.withToken]
  split
  · split <;> rfl
  · rfl

/-- In the other world a session with the other token asks for a field in the same way. -/
theorem readField_twins (s : Session) (path key : Text) (cache : Cache) :
    readField (s.withToken token') path key site' (cache.withToken token') =
      (readField s path key site cache).withToken token' := by
  rw [readField_apply, readField_apply, read_twins h, request_withToken, Outcome.withToken]
  cases Secret.request s path <;> rfl

omit h in
theorem readField_withToken (hs : s.withToken token = s) (path key : Text)
    (hcache : cache.withToken token = cache) :
    (readField s path key site cache).withToken token = readField s path key site cache := by
  have hrequest := @request_withToken token s path
  rw [hs] at hrequest
  rw [readField_apply, Outcome.withToken, hcache]
  cases hmade : Secret.request s path with
  | error f => rfl
  | ok r =>
    rw [hmade] at hrequest
    have hr : r.withToken token = r := (Except.ok.inj hrequest).symm
    simp only [Except.toOption, Option.toList_some, List.map_cons, List.map_nil, Event.withToken, hr]

theorem blind_resolveSecret (path key : Text) :
    Blind site site' token token' (resolveSecret path key) := by
  intro cache hcache
  obtain ⟨hbears, hsame⟩ := session_twins h hcache
  cases hsession : (Action.session site cache).result with
  | error f =>
    rw [hsession] at hsame
    rw [resolveSecret_of_no_session hsession, resolveSecret_of_no_session hsame, Outcome.withToken,
      Outcome.withToken, hcache]
    exact ⟨rfl, rfl⟩
  | ok s =>
    rw [hsession] at hbears hsame
    have hs : s.withToken token = s := Except.ok.inj hbears
    have hloaded : ({ cache with session := some s } : Cache).withToken token =
        { cache with session := some s } := by
      rw [Cache.withToken, Option.map_some, hs]
    have htwin := readField_twins h s path key { cache with session := some s }
    rw [resolveSecret_of_session hsession, resolveSecret_of_session hsame, orIfMissing_eq,
      orIfMissing_eq, orIfMissing_withToken, orIfMissing_withToken,
      readField_withToken hs path key hloaded, ← htwin]
    exact ⟨rfl, rfl⟩

/-- Settings have nothing to do with the token. -/
theorem blind_resolveReference (hpath : site'.settingsPath = site.settingsPath) (key : Text) :
    Blind site site' token token' (resolveReference key) := by
  intro cache hcache
  have hsettings : (Action.settings site' (cache.withToken token')).result =
      (Action.settings site cache).result := by
    have hheld : (cache.withToken token').settings = cache.settings := rfl
    simp only [Action.settings, hheld, h.disk, hpath]
    cases cache.settings with
    | some s => rfl
    | none => cases Settings.load site.world.disk site.settingsPath <;> rfl
  cases hresult : (Action.settings site cache).result with
  | error f =>
    rw [resolveReference_of_no_settings hresult,
      resolveReference_of_no_settings (hsettings.trans hresult), Outcome.withToken,
      Outcome.withToken, hcache]
    exact ⟨rfl, rfl⟩
  | ok s =>
    rw [resolveReference_of_settings hresult,
      resolveReference_of_settings (hsettings.trans hresult)]
    have hloaded : ({ cache with settings := some s } : Cache).withToken token =
        { cache with settings := some s } := by
      have hsession := congrArg Cache.session hcache
      simp only [Cache.withToken] at hsession ⊢
      rw [hsession]
    rw [Outcome.withToken, Outcome.withToken, hloaded]
    exact ⟨rfl, rfl⟩

end Lookups

section Streams

variable [Pattern.Limit] {site site' : Site} {token token' : Text}
  (h : World.TokenTwins site.world site'.world token token')
  (hpath : site'.settingsPath = site.settingsPath)
include h

theorem blind_fillSecrets (text : Text) : Blind site site' token token' (fillSecrets text) := by
  rw [fillSecrets_eq]
  exact .bind (.mapM (fun _ => blind_resolveSecret h _ _) _) fun _ => .ofStep _

include hpath

theorem blind_fillReferences (line : Text) :
    Blind site site' token token' (fillReferences line) := by
  rw [fillReferences_eq]
  refine .bind (.mapM (fun key => ?_) _) fun _ => .ofStep _
  exact .bind (blind_resolveReference h hpath key) fun _ => blind_fillSecrets h _

theorem blind_processLine (line : Text) : Blind site site' token token' (processLine line) := by
  cases hdialect : dialect? line with
  | none =>
    rw [processLine_of_no_dialect hdialect]
    exact .pure _
  | some d =>
    cases d with
    | secret =>
      rw [processLine_of_secret hdialect]
      split
      · exact .bind (.warn line) fun _ => blind_fillSecrets h line
      · exact blind_fillSecrets h line
    | reference =>
      rw [processLine_of_reference hdialect]
      exact blind_fillReferences h hpath line

theorem blind_processRaw (number : Nat) (line : Bytes) :
    Blind site site' token token' (processRaw number line) := by
  cases hdecode : Utf8.decode? (chompReturn line) with
  | some text =>
    rw [processRaw_of_text hdecode]
    exact .bind (blind_processLine h hpath text) fun _ => .pure _
  | none =>
    rw [processRaw_of_undecodable hdecode, copyRaw]
    split
    · exact .ofResult _
    · exact .pure _

theorem blind_processLines (number : Nat) (lines : List Bytes) :
    Blind site site' token token' (processLines number lines) := by
  induction lines generalizing number with
  | nil => exact .pure _
  | cons line lines ih =>
    exact .bind (blind_processRaw h hpath number line) fun _ => .bind (ih _) fun _ => .pure _

theorem blind_processAll (input : Input) : Blind site site' token token' (processAll input) := by
  refine .bind (blind_processLines h hpath 1 input.lines) fun filled => ?_
  cases input.fault with
  | some reason => exact .ofResult _
  | none => exact .pure _

end Streams

section Runs

variable {w w' : World} {token token' : Text}

/-- The warning among events. -/
def Event.warning? : Event → Option Text
  | request _ => none
  | warning line => some line

/-- Outcomes that differ in the token of the requests only. -/
structure SameButToken (token token' : Text) (out out' : RunOutcome) : Prop where
  result : out'.result = out.result
  written : out'.written = out.written
  events : out'.events = out.events.map (Event.withToken token')
  warnings : out'.events.filterMap Event.warning? = out.events.filterMap Event.warning?
  urls : (out'.events.filterMap Event.request?).map Request.url =
    (out.events.filterMap Event.request?).map Request.url
  tokens : ∀ r ∈ out.events.filterMap Event.request?, r.token = token
  tokens' : ∀ r ∈ out'.events.filterMap Event.request?, r.token = token'

theorem warnings_withToken (events : List Event) :
    (events.map (Event.withToken token)).filterMap Event.warning? =
      events.filterMap Event.warning? := by
  rw [List.filterMap_map]
  congr 1
  funext e
  cases e <;> rfl

theorem requests_withToken (events : List Event) :
    (events.map (Event.withToken token)).filterMap Event.request? =
      (events.filterMap Event.request?).map (Request.withToken token) := by
  rw [List.filterMap_map, List.map_filterMap]
  congr 1
  funext e
  cases e <;> rfl

theorem token_of_withToken (events : List Event) :
    ∀ r ∈ (events.map (Event.withToken token)).filterMap Event.request?, r.token = token := by
  rw [requests_withToken]
  intro r hr
  obtain ⟨r, -, rfl⟩ := List.mem_map.mp hr
  rfl

section Executing

variable [Pattern.Limit]

/-- What comes of a run in the other world. -/
theorem execute_twins (h : World.TokenTwins w w' token token') (path : Path) (input : Input)
    (sink : Sink) :
    execute w' path input sink =
        { execute w path input sink with
          events := (execute w path input sink).events.map (Event.withToken token') } ∧
      (execute w path input sink).events.map (Event.withToken token) =
        (execute w path input sink).events := by
  cases hload : Descriptor.load w.disk path with
  | error f =>
    have hload' : Descriptor.load w'.disk path = .error f := by rw [h.disk, hload]
    simp only [execute, hload, hload', List.map_nil, and_self]
  | ok descriptor =>
    have hload' : Descriptor.load w'.disk path = .ok descriptor := by rw [h.disk, hload]
    obtain ⟨hbears, hsame⟩ := @blind_processAll _ { world := w, settingsPath := descriptor.kvFilePath }
      { world := w', settingsPath := descriptor.kvFilePath } token token' h rfl input {} rfl
    have hevents := congrArg Outcome.events hbears
    have hempty : Cache.withToken token' {} = {} := rfl
    rw [hempty] at hsame
    simp only [execute, hload, hload', hsame, Outcome.withToken]
    simp only [Outcome.withToken] at hevents
    cases (processAll input { world := w, settingsPath := descriptor.kvFilePath } {}).result with
    | error stop => exact ⟨rfl, hevents⟩
    | ok bytes =>
      simp only
      split
      · exact ⟨rfl, hevents⟩
      · exact ⟨rfl, hevents⟩

theorem execute_sameButToken (h : World.TokenTwins w w' token token') (path : Path) (input : Input)
    (sink : Sink) :
    SameButToken token token' (execute w path input sink) (execute w' path input sink) := by
  obtain ⟨hsame, hbears⟩ := execute_twins h path input sink
  constructor
  · rw [hsame]
  · rw [hsame]
  · rw [hsame]
  · rw [hsame, warnings_withToken]
  · rw [hsame, requests_withToken, List.map_map]
    rfl
  · rw [← hbears]
    exact token_of_withToken _
  · rw [hsame]
    exact token_of_withToken _

end Executing

/-- Reports of a failure that differ in the time in the log only. -/
structure SameButTime (log : DiagnosticLog) (disk : Disk) (failure : RunFailure)
    (now now' : Instant) : Prop where
  notices : (reportFailure log disk failure now').1 = (reportFailure log disk failure now).1
  log : ((reportFailure log disk failure now').2 = (reportFailure log disk failure now).2 ∧
      ((∀ file, disk.faults.remains .write file = file) →
        (reportFailure log disk failure now).2 = disk)) ∨
    ∃ l, (reportFailure log disk failure now).2 =
        disk.put l { content := Utf8.encode (now.rfc3339 ++ ' ' :: failure.report ++ ['\n'])
                     modified := now } ∧
      (reportFailure log disk failure now').2 =
        disk.put l { content := Utf8.encode (now'.rfc3339 ++ ' ' :: failure.report ++ ['\n'])
                     modified := now' }

theorem reportFailure_sameButTime (log : DiagnosticLog) (disk : Disk) (failure : RunFailure)
    (now now' : Instant) : SameButTime log disk failure now now' := by
  rcases disk.write_cases log.path with ⟨after, answer, hsame, hclean⟩ | ⟨l, hwritten⟩
  · cases answer with
    | error reason =>
      constructor
      · simp only [reportFailure, DiagnosticLog.record, hsame]
      · simpa only [reportFailure, DiagnosticLog.record, hsame, true_and] using Or.inl hclean
    | ok _ =>
      constructor
      · simp only [reportFailure, DiagnosticLog.record, hsame]
      · simpa only [reportFailure, DiagnosticLog.record, hsame, true_and] using Or.inl hclean
  · constructor
    · simp only [reportFailure, DiagnosticLog.record, hwritten]
    · exact Or.inr ⟨l, by simp only [reportFailure, DiagnosticLog.record, hwritten,
        DiagnosticLog.entry], by simp only [reportFailure, DiagnosticLog.record, hwritten,
        DiagnosticLog.entry]⟩

/-- The start of the program in a world. -/
def World.launch (w : World) (program : Text) (arguments : List Text) (input : Input)
    (now : Instant) (lastWords : Breach → Text) : Launch :=
  { program, arguments, environment := w.environment, disk := w.disk, answer := w.answer, input, now,
    lastWords }

theorem warningsText_withToken (now : Instant) (events : List Event) :
    Terminal.warningsText now (events.map (Event.withToken token)) =
      Terminal.warningsText now events := by
  rw [Terminal.warningsText, Terminal.warningsText, List.flatMap_map]
  congr 1
  funext e
  cases e <;> rfl

/-- The twin worlds of a run, where a stale log has been removed. -/
theorem World.TokenTwins.withDisk (h : World.TokenTwins w w' token token') (disk : Disk) :
    World.TokenTwins { w with disk } { w' with disk } token token' :=
  { h with disk := rfl }

/-- The program comes to the same in both worlds. -/
theorem run_launch_twins [Pattern.Limit] (h : World.TokenTwins w w' token token') (program : Text)
    (arguments : List Text) (input : Input) (now : Instant) (lastWords : Breach → Text) :
    (w'.launch program arguments input now lastWords).run =
      (w.launch program arguments input now lastWords).run := by
  have hlog : (w'.launch program arguments input now lastWords).log =
      (w.launch program arguments input now lastWords).log := by
    have hget := h.environment Launch.temporaryDirectoryVariable (by decide)
    simp only [Launch.log, Launch.temporaryDirectory, World.launch, hget]
  have hpruned : (w'.launch program arguments input now lastWords).prunedDisk =
      (w.launch program arguments input now lastWords).prunedDisk := by
    rw [Launch.prunedDisk, Launch.prunedDisk, hlog]
    simp only [World.launch, h.disk]
  have hshows : (w'.launch program arguments input now lastWords).showsWarnings =
      (w.launch program arguments input now lastWords).showsWarnings := by
    have hget := h.environment LogFilter.variableName (by decide)
    simp only [Launch.showsWarnings, LogFilter.ofEnvironment, World.launch, hget]
  have hrunWith : ∀ descriptor,
      (w'.launch program arguments input now lastWords).runWith descriptor =
        (w.launch program arguments input now lastWords).runWith descriptor := by
    intro descriptor
    have htwins := h.withDisk (w.launch program arguments input now lastWords).prunedDisk
    obtain ⟨hsame, -⟩ := execute_twins htwins { text := descriptor } input .working
    simp only [Launch.runWith, hpruned, hshows, hlog]
    simp only [World.launch] at hsame ⊢
    rw [hsame]
    simp only [warningsText_withToken]
    rfl
  simp only [Launch.run, hrunWith]
  simp only [World.launch, h.disk]

end Runs

/-- The token shows nowhere but in the requests: in worlds that differ in it only, runs come to the
same and make the same requests, each with the token of its world, their failures are reported in the
same words, and so does the program as a whole. -/
theorem token_only_in_requests [Pattern.Limit] {w w' : World} {token token' : Text}
    (h : World.TokenTwins w w' token token') :
    (∀ path input sink,
      SameButToken token token' (execute w path input sink) (execute w' path input sink)) ∧
    (∀ log failure now now', w'.disk = w.disk ∧ SameButTime log w.disk failure now now') ∧
    ∀ program arguments input now lastWords,
      (w'.launch program arguments input now lastWords).run =
        (w.launch program arguments input now lastWords).run :=
  ⟨execute_sameButToken h, fun log failure now now' =>
    ⟨h.disk, reportFailure_sameButTime log w.disk failure now now'⟩, run_launch_twins h⟩

/-- A world where every token opens a store with one secret in it. -/
def openWorld (token : Text) : World :=
  { disk := ({ wording := fun _ _ _ => [] } : Disk).put ({ text := "run.yml".toList } : Path).location
      { content := [], modified := { nanos := 0 } }
    environment := [(Session.hostVariable, "http://store".toList), (Session.tokenVariable, token)]
    answer := fun _ => .ok
      { status := 200, body := "\x7b\"data\":\x7b\"data\":\x7b\"k\":\"v\"\x7d\x7d\x7d".toList } }

open scoped Pattern.Estimate in
/-- A run that asks for a secret with one token or with another. -/
theorem token_only_in_requests_openWorld :
    World.TokenTwins (openWorld "first".toList) (openWorld "second".toList) "first".toList
        "second".toList ∧
      SameButToken "first".toList "second".toList
        (execute (openWorld "first".toList) { text := "run.yml".toList }
          { bytes := Utf8.encode "$\x7b secret:p@k \x7d\n".toList } .working)
        (execute (openWorld "second".toList) { text := "run.yml".toList }
          { bytes := Utf8.encode "$\x7b secret:p@k \x7d\n".toList } .working) := by
  have htwins : World.TokenTwins (openWorld "first".toList) (openWorld "second".toList)
      "first".toList "second".toList :=
    { disk := rfl
      environment := by
        intro name hname
        have hne : (Session.tokenVariable == name) = false := by simpa using Ne.symm hname
        simp only [openWorld, Environment.get?, List.find?_cons, hne]
      value := by decide
      value' := by decide
      given := by decide
      given' := by decide
      answer := rfl
      blind := fun _ _ _ => rfl }
  exact ⟨htwins, (token_only_in_requests htwins).1 _ _ _⟩

end Infill
