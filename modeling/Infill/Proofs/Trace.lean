import Infill.Pattern.Estimate
import Infill.Proofs.Breaking
import Infill.Proofs.Modifier.Indentation

/-!
# What a line asks for

The trace of an action is what is seen of it if its value is not looked at: the requests, why it has
come to no value, and what has been loaded afterwards.  The trace of a line is given by the names in
its placeholders: one request for each field, in order, up to the first one that cannot be had and is
not merely missing, or up to the first setting that breaks off (`processLine_trace`).  The literal text
of the line and the modifiers of its placeholders have no part in what is asked for and loaded, nor in
failures; but a line of which everything has been looked up can still break off on a modifier of its
own.
-/

namespace Infill

open Infill.Action

/-- The request among events. -/
def Event.request? : Event → Option Request
  | request r => some r
  | warning _ => none

/-- What is seen of an action if its value is not looked at. -/
structure Trace where
  requests : List Request
  stop : Option (Stop Failure)
  cache : Cache

def Outcome.trace {α : Type} (out : Outcome α) : Trace :=
  { requests := out.events.filterMap Event.request?
    stop := match out.result with
      | .ok _ => none
      | .error stop => some stop
    cache := out.cache }

/-- The trace with requests made before. -/
def Trace.behind (requests : List Request) (t : Trace) : Trace :=
  { t with requests := requests ++ t.requests }

/-- The trace of something that is broken off in the end, if there is a step out of bounds and the end
is reached. -/
def Trace.breakingOff (b : Option Breach) (t : Trace) : Trace :=
  { t with stop := t.stop.or (b.map .breach) }

@[simp] theorem Trace.requests_breakingOff (b : Option Breach) (t : Trace) :
    (t.breakingOff b).requests = t.requests := rfl

@[simp] theorem Trace.breakingOff_none (t : Trace) : t.breakingOff none = t := by
  simp [breakingOff]

@[simp] theorem Trace.stop_breakingOff_eq_failure_iff {t : Trace} {b : Option Breach} {f : Failure} :
    (t.breakingOff b).stop = some (.failure f) ↔ t.stop = some (.failure f) := by
  rw [breakingOff]
  cases t.stop with
  | some stop => rw [Option.some_or]
  | none => cases b <;> simp

section Traces

variable {α β γ δ : Type} {site : Site} {cache : Cache}

theorem trace_stop_eq_some_iff {out : Outcome α} {stop : Stop Failure} :
    out.trace.stop = some stop ↔ out.result = .error stop := by
  rw [Outcome.trace]
  cases out.result <;> simp

theorem trace_stop_eq_none_iff {out : Outcome α} :
    out.trace.stop = none ↔ ∃ a, out.result = .ok a := by
  rw [Outcome.trace]
  cases out.result <;> simp

theorem trace_bind_of_ok {x : Action α} {f : α → Action β} {a : α}
    (h : (x site cache).result = .ok a) :
    ((x >>= f) site cache).trace =
      (f a site (x site cache).cache).trace.behind (x site cache).trace.requests := by
  rw [bind_of_ok h]
  simp only [Outcome.trace, Trace.behind, List.filterMap_append]

theorem trace_bind_of_error {x : Action α} {f : α → Action β} {e : Stop Failure}
    (h : (x site cache).result = .error e) :
    ((x >>= f) site cache).trace = (x site cache).trace := by
  rw [bind_of_error h]
  simp only [Outcome.trace, h]

/-- Traces do not see what is made of a value. -/
theorem trace_bind_pure (x : Action α) (g : α → β) :
    ((x >>= fun a => pure (g a)) site cache).trace = (x site cache).trace := by
  cases h : (x site cache).result with
  | error e => exact trace_bind_of_error h
  | ok a =>
    rw [trace_bind_of_ok h]
    simp only [Outcome.trace, Trace.behind, pure_apply, h, List.filterMap_nil, List.append_nil]

/-- A step within bounds has no trace of its own, and one out of bounds ends the trace. -/
theorem trace_bind_ofStep {x : Action α} {g : α → Except Breach β} {b : Option Breach}
    (h : ∀ a, (x site cache).result = .ok a → ∀ first, g a = .error first ↔ b = some first) :
    ((x >>= fun a => ofStep (g a)) site cache).trace = (x site cache).trace.breakingOff b := by
  cases hx : (x site cache).result with
  | error e =>
    rw [trace_bind_of_error hx]
    simp only [Trace.breakingOff, Outcome.trace, hx, Option.some_or]
  | ok a =>
    rw [trace_bind_of_ok hx]
    simp only [Trace.breakingOff, Outcome.trace, Trace.behind, ofStep_apply, hx, List.filterMap_nil,
      List.append_nil, Option.none_or]
    cases hg : g a with
    | error first => rw [(h a hx first).mp hg]; rfl
    | ok c =>
      have hnone : b = none := Option.eq_none_iff_forall_ne_some.mpr fun first hfirst => by
        rw [(h a hx first).mpr hfirst] at hg
        contradiction
      rw [hnone]
      rfl

/-- Actions with equal traces that go on with equal traces have equal traces, whatever their values
are; and so if the first one is broken off in the end. -/
theorem trace_bind_congr {x : Action α} {y : Action β} {f : α → Action γ} {g : β → Action δ}
    (hxy : (x site cache).trace = (y site cache).trace) (b : Option Breach)
    (hfg : ∀ a a', (f a site (x site cache).cache).trace =
      (g a' site (x site cache).cache).trace.breakingOff b) :
    ((x >>= f) site cache).trace = ((y >>= g) site cache).trace.breakingOff b := by
  have hcache : (y site cache).cache = (x site cache).cache := (congrArg Trace.cache hxy).symm
  have hstop := congrArg Trace.stop hxy
  cases hx : (x site cache).result with
  | error e =>
    rw [trace_stop_eq_some_iff.mpr hx] at hstop
    have hy := trace_stop_eq_some_iff.mp hstop.symm
    rw [trace_bind_of_error hx, trace_bind_of_error hy, hxy, Trace.breakingOff, ← hstop,
      Option.some_or, hstop]
  | ok a =>
    rw [trace_stop_eq_none_iff.mpr ⟨a, hx⟩] at hstop
    obtain ⟨a', hy⟩ := trace_stop_eq_none_iff.mp hstop.symm
    rw [trace_bind_of_ok hx, trace_bind_of_ok hy, hxy, hcache, hfg a a']
    rfl

end Traces

section Fields

/-- What reading a field in a session comes to: there may be no address for its path, no answer from
the store, or nothing to read in the answer. -/
def Secret.read (answer : Request → Except Text Response) (s : Session) (path key : Text) :
    Except Failure Text :=
  match request s path with
  | .error f => .error f
  | .ok r =>
    match answer r with
    | .error reason => .error (.transport reason)
    | .ok response => field path key response

/-- Why looking up a field stops everything, if it does; that the field is not there does not. -/
def Secret.fatal? (answer : Request → Except Text Response) (s : Session)
    (field : Text × Text) : Option Failure :=
  match read answer s field.1 field.2 with
  | .error f => if f.isFatal then some f else none
  | .ok _ => none

/-- The fields that are looked up: all of them, or those up to the first one that stops
everything. -/
def Secret.lookedUp (answer : Request → Except Text Response) (s : Session) :
    List (Text × Text) → List (Text × Text)
  | [] => []
  | field :: rest =>
    match Secret.fatal? answer s field with
    | some _ => [field]
    | none => field :: lookedUp answer s rest

/-- The requests for fields, for those that a request can be made for. -/
def Secret.requests (s : Session) (fields : List (Text × Text)) : List Request :=
  fields.filterMap fun field => (Secret.request s field.1).toOption

/-- The trace of looking fields up. -/
def Trace.ofFields (site : Site) (cache : Cache) (fields : List (Text × Text)) : Trace :=
  if fields = [] then { requests := [], stop := none, cache }
  else
    match (Action.session site cache).result with
    | .error stop => { requests := [], stop := some stop, cache }
    | .ok s =>
      { requests := Secret.requests s (Secret.lookedUp site.world.answer s fields)
        stop := (fields.findSome? (Secret.fatal? site.world.answer s)).map .failure
        cache := { cache with session := some s } }

variable {site : Site} {cache : Cache}

theorem isNotFound_of_request {s : Session} {path : Text} {f : Failure}
    (h : Secret.request s path = .error f) : f.isNotFound = false := by
  simp only [Secret.request] at h
  split at h
  · next f' hurl =>
    obtain rfl := Except.error.inj h
    rw [Secret.url] at hurl
    split at hurl
    · exact Except.error.inj hurl ▸ rfl
    · split at hurl
      · exact Except.error.inj hurl ▸ rfl
      · contradiction
  · contradiction

theorem readField_apply (s : Session) (path key : Text) :
    readField s path key site cache =
      { result := (Secret.read site.world.answer s path key).mapError .failure
        cache
        events := (Secret.request s path).toOption.toList.map .request } := by
  rw [readField, Secret.read]
  cases hrequest : Secret.request s path with
  | error f => rfl
  | ok r =>
    have hsame : Action.ofResult (.ok r) = pure r := rfl
    rw [hsame, pure_bind]
    cases hanswer : site.world.answer r with
    | error reason =>
      have hask : (Action.ask r site cache).result = .error (.failure (.transport reason)) := by
        simp only [Action.ask, hanswer]
      rw [bind_of_error hask]
      simp only [hanswer]
      rfl
    | ok response =>
      have hask : (Action.ask r site cache).result = .ok response := by
        simp only [Action.ask, hanswer]
      rw [bind_of_ok hask]
      simp only [hanswer]
      rfl

theorem trace_readField (s : Session) (field : Text × Text) :
    ((readField s field.1 field.2).orIfMissing [] site cache).trace =
      { requests := (Secret.request s field.1).toOption.toList
        stop := (Secret.fatal? site.world.answer s field).map .failure
        cache } := by
  have hevents : ((Secret.request s field.1).toOption.toList.map Event.request).filterMap
      Event.request? = (Secret.request s field.1).toOption.toList := by
    rw [List.filterMap_map]
    exact List.filterMap_some
  rw [orIfMissing_eq, readField_apply, Outcome.orIfMissing, Secret.fatal?]
  cases Secret.read site.world.answer s field.1 field.2 with
  | ok value => simp only [Except.mapError, Outcome.trace, hevents, Option.map_none]
  | error f =>
    cases hmissing : f.isNotFound with
    | true => simp [Except.mapError, Stop.isNotFound, Outcome.trace, hevents, Failure.isFatal, hmissing]
    | false => simp [Except.mapError, Stop.isNotFound, Outcome.trace, hevents, Failure.isFatal, hmissing]

theorem resolveSecret_of_session {s : Session} (hs : (Action.session site cache).result = .ok s)
    (path key : Text) :
    resolveSecret path key site cache =
      (readField s path key).orIfMissing [] site { cache with session := some s } :=
  Resource.fetch_bind_of_ok (r := .session) hs _

theorem resolveSecret_of_no_session {stop : Stop Failure}
    (hstop : (Action.session site cache).result = .error stop) (path key : Text) :
    resolveSecret path key site cache = { result := .error stop, cache, events := [] } :=
  Resource.fetch_bind_of_error (r := .session) hstop _

theorem resolveFields_cons (field : Text × Text) (fields : List (Text × Text)) :
    resolveFields (field :: fields) = resolveSecret field.1 field.2 >>= fun value =>
      resolveFields fields >>= fun more => pure (value :: more) := List.mapM_cons

theorem resolveFields_append (fields fields' : List (Text × Text)) :
    resolveFields (fields ++ fields') = resolveFields fields >>= fun found =>
      resolveFields fields' >>= fun more => pure (found ++ more) := List.mapM_append

theorem trace_resolveFields_of_session {s : Session} (hs : cache.session = some s)
    (fields : List (Text × Text)) :
    (resolveFields fields site cache).trace =
      { requests := Secret.requests s (Secret.lookedUp site.world.answer s fields)
        stop := (fields.findSome? (Secret.fatal? site.world.answer s)).map .failure
        cache } := by
  induction fields with
  | nil => rfl
  | cons field fields ih =>
    have hfirst : resolveSecret field.1 field.2 site cache =
        (readField s field.1 field.2).orIfMissing [] site cache :=
      Resource.fetch_bind_of_held (r := .session) hs _
    have htrace := @trace_readField site cache s field
    rw [← hfirst] at htrace
    have hafter : (resolveSecret field.1 field.2 site cache).cache = cache :=
      congrArg Trace.cache htrace
    rw [resolveFields_cons, Secret.lookedUp, List.findSome?_cons]
    cases hfatal : Secret.fatal? site.world.answer s field with
    | some f =>
      rw [hfatal] at htrace
      have hfails := trace_stop_eq_some_iff.mp (congrArg Trace.stop htrace)
      rw [trace_bind_of_error hfails, htrace]
      cases hrequest : Secret.request s field.1 <;> simp [Secret.requests, hrequest, Except.toOption]
    | none =>
      rw [hfatal] at htrace
      obtain ⟨value, hvalue⟩ := trace_stop_eq_none_iff.mp (congrArg Trace.stop htrace)
      rw [trace_bind_of_ok hvalue, trace_bind_pure, hafter, ih, htrace, Trace.behind]
      cases hrequest : Secret.request s field.1 <;> simp [Secret.requests, hrequest, Except.toOption]

theorem trace_resolveFields (fields : List (Text × Text)) :
    (resolveFields fields site cache).trace = Trace.ofFields site cache fields := by
  cases fields with
  | nil => rfl
  | cons field fields =>
    rw [Trace.ofFields, if_neg (List.cons_ne_nil _ _)]
    cases hsession : (Action.session site cache).result with
    | error f =>
      have hfirst := resolveSecret_of_no_session hsession field.1 field.2
      rw [resolveFields_cons, trace_bind_of_error (by rw [hfirst]), hfirst]
      rfl
    | ok s =>
      have hloaded : resolveSecret field.1 field.2 site { cache with session := some s } =
          resolveSecret field.1 field.2 site cache := by
        rw [resolveSecret_of_session hsession]
        exact resolveSecret_of_session rfl _ _
      have hsame : resolveFields (field :: fields) site cache =
          resolveFields (field :: fields) site { cache with session := some s } := by
        rw [resolveFields_cons, bind_eq_andThen, bind_eq_andThen, hloaded]
      rw [hsame, trace_resolveFields_of_session rfl]

end Fields

section Keys

variable {site : Site} {cache : Cache}

theorem resolveReference_of_settings {s : Settings}
    (hs : (Action.settings site cache).result = .ok s) (key : Text) :
    resolveReference key site cache =
      { result := .ok ((s.get? key).getD []), cache := { cache with settings := some s }
        events := [] } :=
  Resource.fetch_bind_of_ok (r := .settings) hs _

theorem resolveReference_of_no_settings {stop : Stop Failure}
    (hstop : (Action.settings site cache).result = .error stop) (key : Text) :
    resolveReference key site cache = { result := .error stop, cache, events := [] } :=
  Resource.fetch_bind_of_error (r := .settings) hstop _

/-- What is looked at of a list: all of it, or what there is up to the first element at which looking
stops. -/
def takeThrough {α : Type} (stops : α → Bool) : List α → List α
  | [] => []
  | a :: l => if stops a then [a] else a :: takeThrough stops l

theorem takeThrough_map {α β : Type} (stops : β → Bool) (f : α → β) (l : List α) :
    takeThrough stops (l.map f) = (takeThrough (stops ∘ f) l).map f := by
  induction l with
  | nil => rfl
  | cons a l ih =>
    rw [List.map_cons, takeThrough, takeThrough, ih, Function.comp_apply]
    split <;> rfl

variable [Pattern.Limit]

/-- The texts that the secrets are filled in of: all of them, or those up to the first one that breaks
off. -/
def filledUpTo : List Text → List Text :=
  takeThrough fun text => (Template.ofLine .secret text).breach?.isSome

theorem filledUpTo_cons (text : Text) (rest : List Text) :
    filledUpTo (text :: rest) =
      if (Template.ofLine .secret text).breach?.isSome then [text] else text :: filledUpTo rest := rfl

/-- The trace of filling in the secrets of texts. -/
def Trace.ofTexts (site : Site) (cache : Cache) (texts : List Text) : Trace :=
  (ofFields site cache ((filledUpTo texts).flatMap fieldsIn)).breakingOff
    (texts.findSome? fun text => (Template.ofLine .secret text).breach?)

/-- The trace of looking settings up, with the secrets that they hold. -/
def Trace.ofKeys (site : Site) (cache : Cache) (keys : List Text) : Trace :=
  if keys = [] then { requests := [], stop := none, cache }
  else
    match (Action.settings site cache).result with
    | .error stop => { requests := [], stop := some stop, cache }
    | .ok s =>
      ofTexts site { cache with settings := some s } (keys.map fun key => (s.get? key).getD [])

/-- With the settings there, to resolve a setting is to fill in the secrets that its value holds. -/
theorem resolveReference_bind_of_settings {s : Settings} (hs : cache.settings = some s)
    (key : Text) :
    (resolveReference key >>= fillSecrets) site cache =
      fillSecrets ((s.get? key).getD []) site cache := by
  rw [resolveReference, bind_assoc]
  exact Resource.fetch_bind_of_held (r := .settings) hs _

theorem resolveKeys_cons (key : Text) (keys : List Text) :
    resolveKeys (key :: keys) = (resolveReference key >>= fillSecrets) >>= fun value =>
      resolveKeys keys >>= fun more => pure (value :: more) := List.mapM_cons

theorem Trace.ofKeys_of_settings {s : Settings} (hs : cache.settings = some s) {keys : List Text}
    (h : keys ≠ []) :
    ofKeys site cache keys = ofTexts site cache (keys.map fun key => (s.get? key).getD []) := by
  have hsettings : (Action.settings site cache).result = .ok s := by
    simp only [Action.settings, hs]
  have hcache : { cache with settings := some s } = cache := by rw [← hs]
  rw [ofKeys, if_neg h, hsettings]
  exact congrArg (fun cache => ofTexts site cache _) hcache

theorem trace_fillSecrets (text : Text) :
    (fillSecrets text site cache).trace =
      (resolveFields (fieldsIn text) site cache).trace.breakingOff
        (Template.ofLine .secret text).breach? := by
  rw [fillSecrets_eq]
  refine trace_bind_ofStep fun found hfound first => Template.render_eq_error_iff ?_
  rw [resolveFields, mapM_result_eq_ok_iff (fun _ => (composed_resolveSecret _ _).steady)
    (.refl site cache)] at hfound
  have htargets := congrArg List.length (targets_eq_map_holes .secret text)
  rw [targets_secret, List.length_map, List.length_map] at htargets
  rw [← hfound.length_eq, htargets]

/-- With the settings there, the fields of all their values are looked up in one sequence, up to the
first value that breaks off. -/
theorem trace_resolveKeys_of_settings {s : Settings} (hs : cache.settings = some s)
    (keys : List Text) :
    (resolveKeys keys site cache).trace =
      (resolveFields ((filledUpTo (keys.map fun key => (s.get? key).getD [])).flatMap fieldsIn)
        site cache).trace.breakingOff
        ((keys.map fun key => (s.get? key).getD []).findSome? fun text =>
          (Template.ofLine .secret text).breach?) := by
  induction keys generalizing cache with
  | nil => rfl
  | cons key keys ih =>
    have hfirst : (resolveReference key >>= fillSecrets) site cache =
        fillSecrets ((s.get? key).getD []) site cache := resolveReference_bind_of_settings hs key
    have hkept : (fillSecrets ((s.get? key).getD []) site cache).cache.settings = some s :=
      (((composed_fillSecrets _).handles .settings site cache).of_held hs
        site.world.disk).2
    have htrace := @trace_fillSecrets site cache _ ((s.get? key).getD [])
    rw [resolveKeys_cons, List.map_cons, filledUpTo_cons, List.findSome?_cons]
    cases hbreach : (Template.ofLine .secret ((s.get? key).getD [])).breach? with
    | some b =>
      rw [hbreach] at htrace
      -- The value has come to nothing, and so what is behind it is not looked at.
      obtain ⟨stop, hstop⟩ : ∃ stop,
          (fillSecrets ((s.get? key).getD []) site cache).result = .error stop := by
        cases hresult : (fillSecrets ((s.get? key).getD []) site cache).result with
        | error stop => exact ⟨stop, rfl⟩
        | ok value =>
          have hnone := trace_stop_eq_none_iff.mpr ⟨value, hresult⟩
          rw [htrace, Trace.breakingOff, Option.or_eq_none_iff] at hnone
          exact absurd hnone.2 (Option.some_ne_none _)
      rw [trace_bind_of_error (by rw [hfirst, hstop]), hfirst, htrace]
      simp
    | none =>
      rw [hbreach, Trace.breakingOff_none] at htrace
      simp only [Option.isSome_none, Bool.false_eq_true, if_false, List.flatMap_cons]
      rw [resolveFields_append]
      refine trace_bind_congr (by rw [hfirst, htrace]) _ ?_
      intro value found
      rw [trace_bind_pure, trace_bind_pure, hfirst]
      exact ih hkept

theorem trace_resolveKeys (keys : List Text) :
    (resolveKeys keys site cache).trace = Trace.ofKeys site cache keys := by
  cases keys with
  | nil => rfl
  | cons key keys =>
    rw [Trace.ofKeys, if_neg (List.cons_ne_nil _ _)]
    cases hsettings : (Action.settings site cache).result with
    | error f =>
      have hfirst := resolveReference_of_no_settings hsettings key
      rw [resolveKeys_cons, bind_assoc, trace_bind_of_error (by rw [hfirst]), hfirst]
      rfl
    | ok s =>
      have hloaded : resolveReference key site { cache with settings := some s } =
          resolveReference key site cache := by
        rw [resolveReference_of_settings hsettings]
        exact resolveReference_of_settings rfl _
      have hsame : resolveKeys (key :: keys) site cache =
          resolveKeys (key :: keys) site { cache with settings := some s } := by
        rw [resolveKeys_cons, bind_assoc, bind_eq_andThen, bind_eq_andThen, hloaded]
      rw [hsame, trace_resolveKeys_of_settings rfl, trace_resolveFields]
      rfl

end Keys

section Lines

variable [Pattern.Limit] {site : Site} {cache : Cache} {line : Text}

theorem trace_processLine_of_secret (h : dialect? line = some .secret) :
    (processLine line site cache).trace =
      (Trace.ofFields site cache (fieldsIn line)).breakingOff (Template.ofLine .secret line).breach? := by
  rw [processLine_of_secret h, ← trace_resolveFields, ← trace_fillSecrets]
  split
  · rw [trace_bind_of_ok rfl]
    rfl
  · rfl

theorem trace_processLine_of_reference (h : dialect? line = some .reference) :
    (processLine line site cache).trace =
      (Trace.ofKeys site cache (keysIn line)).breakingOff
        (Template.ofLine .reference line).breach? := by
  have hsteady : ∀ key, Steady (resolveReference key >>= fillSecrets) := by
    intro key
    rw [← resolveDeep_setting]
    exact steady_resolveDeep _
  rw [processLine_of_reference h, fillReferences_eq, ← trace_resolveKeys]
  refine trace_bind_ofStep fun found hfound first => Template.render_eq_error_iff ?_
  rw [resolveKeys, mapM_result_eq_ok_iff hsteady (.refl site cache)] at hfound
  have htargets := congrArg List.length (targets_eq_map_holes .reference line)
  rw [targets_reference, List.length_map, List.length_map] at htargets
  rw [← hfound.length_eq, htargets]

end Lines

/-- How lookups in a session go on: where none of some fields stops everything, each of them is
asked for, with the token of the session, and the first field that does stop everything is the last
one to be asked for. -/
structure Secret.AsksInOrder (answer : Request → Except Text Response) (s : Session)
    (fine : List (Text × Text)) : Prop where
  all : lookedUp answer s fine = fine ∧ fine.findSome? (fatal? answer s) = none
  urls : (requests s fine).map (fun r => Except.ok r.url) = fine.map fun field => url s field.1
  tokens : ∀ r ∈ requests s fine, r.token = s.token
  stops : ∀ field rest f, fatal? answer s field = some f →
    lookedUp answer s (fine ++ field :: rest) = fine ++ [field] ∧
      (fine ++ field :: rest).findSome? (fatal? answer s) = some f ∧
      requests s (fine ++ [field]) = requests s fine ++ (request s field.1).toOption.toList

theorem Secret.asksInOrder {answer : Request → Except Text Response} {s : Session}
    {fine : List (Text × Text)} (h : ∀ field ∈ fine, fatal? answer s field = none) :
    AsksInOrder answer s fine := by
  induction fine with
  | nil =>
    refine ⟨⟨rfl, rfl⟩, rfl, by simp [requests], ?_⟩
    intro field rest f hf
    simp only [List.nil_append, lookedUp, hf, List.findSome?_cons, true_and]
    cases hrequest : request s field.1 <;> simp [requests, hrequest, Except.toOption]
  | cons field fine ih =>
    obtain ⟨hfield, h⟩ := List.forall_mem_cons.mp h
    obtain ⟨⟨hall, hnone⟩, hurls, htokens, hstops⟩ := ih h
    -- A field that does not stop everything has an address.
    obtain ⟨r, hrequest⟩ : ∃ r, request s field.1 = .ok r := by
      cases hrequest : request s field.1 with
      | ok r => exact ⟨r, rfl⟩
      | error f =>
        simp [fatal?, read, hrequest, Failure.isFatal, isNotFound_of_request hrequest] at hfield
    have hrequests : requests s (field :: fine) = r :: requests s fine := by
      simp [requests, hrequest, Except.toOption]
    obtain ⟨hurl, htoken⟩ : url s field.1 = .ok r.url ∧ r.token = s.token := by
      rw [request] at hrequest
      split at hrequest
      · contradiction
      · next hurl => exact Except.ok.inj hrequest ▸ ⟨hurl, rfl⟩
    constructor
    · simp only [lookedUp, hfield, hall, List.findSome?_cons, hnone, and_self]
    · rw [hrequests, List.map_cons, List.map_cons, hurls, hurl]
    · rw [hrequests]
      simpa [htoken] using htokens
    · intro last rest f hf
      obtain ⟨hlooked, hfound, hown⟩ := hstops last rest f hf
      refine ⟨?_, ?_, ?_⟩
      · simp only [List.cons_append, lookedUp, hfield, hlooked]
      · simp only [List.cons_append, List.findSome?_cons, hfield, hfound]
      · have hmore : requests s (field :: (fine ++ [last])) = r :: requests s (fine ++ [last]) := by
          simp [requests, hrequest, Except.toOption]
        rw [List.cons_append, hmore, hown, hrequests, List.cons_append]

section Numbers

variable {answer : Request → Except Text Response} {s : Session} {site : Site} {cache : Cache}

theorem Secret.length_lookedUp_le (fields : List (Text × Text)) :
    (lookedUp answer s fields).length ≤ fields.length := by
  induction fields with
  | nil => exact Nat.le_refl _
  | cons field fields ih =>
    rw [lookedUp]
    split
    · simp
    · simpa using ih

theorem Secret.length_requests_lookedUp_le (fields : List (Text × Text)) :
    (requests s (lookedUp answer s fields)).length ≤ fields.length :=
  Nat.le_trans (List.length_filterMap_le _ _) (length_lookedUp_le fields)

theorem Secret.length_requests_lookedUp {fields : List (Text × Text)}
    (h : fields.findSome? (fatal? answer s) = none) :
    (requests s (lookedUp answer s fields)).length = fields.length := by
  obtain ⟨⟨hall, -⟩, hurls, -, -⟩ := asksInOrder (List.findSome?_eq_none_iff.mp h)
  rw [hall]
  simpa using congrArg List.length hurls

/-- Fields that are looked up do not break off. -/
theorem Trace.stop_ofFields_eq_none {fields : List (Text × Text)}
    (h : ∀ f, (ofFields site cache fields).stop ≠ some (.failure f)) :
    (ofFields site cache fields).stop = none := by
  rw [ofFields] at h ⊢
  split
  · rfl
  · next hcons =>
    rw [if_neg hcons] at h
    cases hsession : (Action.session site cache).result with
    | error stop =>
      rw [hsession] at h
      cases stop with
      | failure f => exact absurd rfl (h f)
      | breach b => exact absurd hsession (WithinBounds.fetch .session site cache b)
    | ok s =>
      rw [hsession] at h
      cases hfound : fields.findSome? (Secret.fatal? site.world.answer s) with
      | none => simp only [hfound, Option.map_none]
      | some f =>
        simp only [hfound, Option.map_some] at h
        exact absurd rfl (h f)

/-- There are no more requests than fields. -/
theorem Trace.length_requests_ofFields_le (fields : List (Text × Text)) :
    (ofFields site cache fields).requests.length ≤ fields.length := by
  rw [ofFields]
  split
  · exact Nat.zero_le _
  · split
    · exact Nat.zero_le _
    · exact Secret.length_requests_lookedUp_le fields

/-- Where all fields are found, there is one request for each of them. -/
theorem Trace.length_requests_ofFields {fields : List (Text × Text)}
    (h : (ofFields site cache fields).stop = none) :
    (ofFields site cache fields).requests.length = fields.length := by
  rw [ofFields] at h ⊢
  split
  · next hnil => exact (List.length_eq_zero_iff.mpr hnil).symm
  · next hcons =>
    rw [if_neg hcons] at h
    split
    · next hsession =>
      rw [hsession] at h
      contradiction
    · next hsession =>
      rw [hsession] at h
      exact Secret.length_requests_lookedUp (Option.map_eq_none_iff.mp h)

end Numbers

section Naming

variable [Pattern.Limit]

theorem filledUpTo_of_none {texts : List Text}
    (h : ∀ text ∈ texts, (Template.ofLine .secret text).breach? = none) : filledUpTo texts = texts := by
  induction texts with
  | nil => rfl
  | cons text texts ih =>
    obtain ⟨htext, h⟩ := List.forall_mem_cons.mp h
    rw [filledUpTo_cons, htext, ih h]
    rfl

/-- The first text that breaks off is the last one to be looked at. -/
theorem filledUpTo_append {before : List Text} {text : Text}
    (h : ∀ t ∈ before, (Template.ofLine .secret t).breach? = none)
    (htext : (Template.ofLine .secret text).breach? ≠ none) (after : List Text) :
    filledUpTo (before ++ text :: after) = before ++ [text] := by
  induction before with
  | nil =>
    rw [List.nil_append, filledUpTo_cons, if_pos (Option.isSome_iff_ne_none.mpr htext), List.nil_append]
  | cons t before ih =>
    obtain ⟨ht, h⟩ := List.forall_mem_cons.mp h
    rw [List.cons_append, filledUpTo_cons, ht, ih h]
    rfl

theorem length_flatMap_filledUpTo_le {α : Type} (f : Text → List α) (texts : List Text) :
    ((filledUpTo texts).flatMap f).length ≤ (texts.flatMap f).length := by
  induction texts with
  | nil => exact Nat.le_refl _
  | cons text texts ih =>
    rw [filledUpTo_cons]
    split
    · simp
    · simpa using ih

variable {site : Site} {cache : Cache} {d : Dialect} {line line' : Text}

/-- Lines of one dialect that name the same have one trace, but for the steps out of bounds at the end
of it that are their own. -/
theorem exists_trace_of_targets_eq (h : dialect? line = some d) (h' : dialect? line' = some d)
    (htargets : d.targets line = d.targets line') :
    ∃ t : Trace,
      (processLine line site cache).trace = t.breakingOff (Template.ofLine d line).breach? ∧
        (processLine line' site cache).trace = t.breakingOff (Template.ofLine d line').breach? := by
  cases d with
  | secret =>
    have hfields : fieldsIn line = fieldsIn line' := by rw [fieldsIn, fieldsIn, htargets]
    exact ⟨_, trace_processLine_of_secret h, by rw [hfields, trace_processLine_of_secret h']⟩
  | reference =>
    have hkeys : keysIn line = keysIn line' := by rw [keysIn, keysIn, htargets]
    exact ⟨_, trace_processLine_of_reference h, by rw [hkeys, trace_processLine_of_reference h']⟩

/-- What a line asks for, what is loaded for it and how it fails are given by the names in its
placeholders, and so is where a setting that it names breaks off.  What is the line's own is only that
it breaks off on one of its modifiers, after all that it names has been looked up. -/
theorem processLine_trace (site : Site) (cache : Cache) :
    (∀ line, dialect? line = none →
      processLine line site cache = { result := .ok line, cache, events := [] }) ∧
    (∀ line, dialect? line = some .secret →
      (processLine line site cache).trace =
        (Trace.ofFields site cache (fieldsIn line)).breakingOff
          (Template.ofLine .secret line).breach?) ∧
    (∀ line, dialect? line = some .reference →
      (processLine line site cache).trace =
        (Trace.ofKeys site cache (keysIn line)).breakingOff
          (Template.ofLine .reference line).breach?) ∧
    (∀ s fine, (∀ field ∈ fine, Secret.fatal? site.world.answer s field = none) →
      Secret.AsksInOrder site.world.answer s fine) ∧
    (∀ texts, (∀ t ∈ texts, (Template.ofLine .secret t).breach? = none) →
      filledUpTo texts = texts) ∧
    (∀ before text after, (∀ t ∈ before, (Template.ofLine .secret t).breach? = none) →
      (Template.ofLine .secret text).breach? ≠ none →
      filledUpTo (before ++ text :: after) = before ++ [text]) ∧
    (∀ d line line', dialect? line = some d → dialect? line' = some d →
      d.targets line = d.targets line' →
      (processLine line site cache).trace.requests = (processLine line' site cache).trace.requests ∧
        (processLine line site cache).cache = (processLine line' site cache).cache ∧
        (∀ f, (processLine line site cache).result = .error (.failure f) ↔
          (processLine line' site cache).result = .error (.failure f)) ∧
        ((Template.ofLine d line).breach? = (Template.ofLine d line').breach? →
          (processLine line site cache).trace = (processLine line' site cache).trace)) ∧
    (∀ text, Dialect.secret.targets text =
      (fieldsIn text).map fun field => .secret field.1 field.2) ∧
    (∀ line, Dialect.reference.targets line = (keysIn line).map .setting) := by
  refine ⟨?idle, fun line h => trace_processLine_of_secret h,
    fun line h => trace_processLine_of_reference h, fun s fine => Secret.asksInOrder,
    fun texts => filledUpTo_of_none, fun before text after h htext => filledUpTo_append h htext after,
    ?same, targets_secret, targets_reference⟩
  case idle =>
    intro line h
    rw [processLine_of_no_dialect h]
    rfl
  case same =>
    intro d line line' h h' htargets
    obtain ⟨t, ht, ht'⟩ : ∃ t : Trace,
        (processLine line site cache).trace = t.breakingOff (Template.ofLine d line).breach? ∧
          (processLine line' site cache).trace = t.breakingOff (Template.ofLine d line').breach? :=
      exists_trace_of_targets_eq h h' htargets
    refine ⟨by rw [ht, ht']; rfl, ?_, ?_, fun hbreach => by rw [ht, ht', hbreach]⟩
    · exact (congrArg Trace.cache ht).trans (congrArg Trace.cache ht').symm
    · intro f
      rw [← trace_stop_eq_some_iff, ← trace_stop_eq_some_iff, ht, ht',
        Trace.stop_breakingOff_eq_failure_iff, Trace.stop_breakingOff_eq_failure_iff]

end Naming

open scoped Pattern.Estimate in
/-- A modifier of a line decides whether the line comes to something, and one in a setting whether what
the next setting holds is asked for at all. -/
theorem wide_indentation_ends_trace :
    (Dialect.reference.targets "$\x7bref:K\x7d".toList =
        Dialect.reference.targets "$\x7bref:K | indent9223372036854775808\x7d".toList ∧
      (processLine "$\x7bref:K\x7d".toList
        { world := { disk := { wording := fun _ _ _ => [] }, environment := [],
                     answer := fun _ => .error [] },
          settingsPath := { text := [] } }
        { settings := some { entries := [(['K'], [])] } }).trace.stop = none ∧
      (processLine "$\x7bref:K | indent9223372036854775808\x7d".toList
        { world := { disk := { wording := fun _ _ _ => [] }, environment := [],
                     answer := fun _ => .error [] },
          settingsPath := { text := [] } }
        { settings := some { entries := [(['K'], [])] } }).trace.stop ≠ none) ∧
    (∀ field ∈ [(['p'], ['k']), (['q'], ['k'])],
      Secret.fatal? (fun _ => .ok { status := 404, body := [] })
        { host := "http://[::1]".toList, token := ['t'] } field = none) ∧
    (processLine "$\x7bref:K\x7d $\x7bref:L\x7d".toList
      { world := { disk := { wording := fun _ _ _ => [] }, environment := [],
                   answer := fun _ => .ok { status := 404, body := [] } },
        settingsPath := { text := [] } }
      { session := some { host := "http://[::1]".toList, token := ['t'] },
        settings := some
          { entries :=
              [(['K'], "$\x7bsecret:p@k | indent9223372036854775808\x7d".toList),
               (['L'], "$\x7bsecret:q@k\x7d".toList)] } }).trace.requests.length ≤ 1 := by
  let site : Site :=
    { world := { disk := { wording := fun _ _ _ => [] }, environment := [],
                 answer := fun _ => .ok { status := 404, body := [] } },
      settingsPath := { text := [] } }
  let held : Text := "$\x7bsecret:p@k | indent9223372036854775808\x7d".toList
  let other : Text := "$\x7bsecret:q@k\x7d".toList
  let settings : Settings := { entries := [(['K'], held), (['L'], other)] }
  let cache : Cache :=
    { session := some { host := "http://[::1]".toList, token := ['t'] }, settings := some settings }
  let line : Text := "$\x7bref:K\x7d $\x7bref:L\x7d".toList
  have hheld : Template.ofLine .secret held =
      { holes := [([], { target := .secret ['p'] ['k'],
                         modifiers := "| indent9223372036854775808".toList, text := held })],
        tail := [] } := by
    decide +kernel
  have hbreach : (Template.ofLine .secret held).breach? ≠ none := by
    rw [hheld, breach?_wide_indentation rfl rfl]
    exact Option.some_ne_none _
  have hkeys : keysIn line = [['K'], ['L']] := by decide +kernel
  have hvalues : [['K'], ['L']].map (fun key => (settings.get? key).getD []) = [held, other] := by
    decide +kernel
  have hrequests : (processLine line site cache).trace.requests =
      (Trace.ofFields site cache ((filledUpTo [held, other]).flatMap fieldsIn)).requests := by
    rw [trace_processLine_of_reference (by decide +kernel), hkeys,
      Trace.ofKeys_of_settings (s := settings) rfl (List.cons_ne_nil _ _), hvalues, Trace.ofTexts,
      Trace.requests_breakingOff, Trace.requests_breakingOff]
  refine ⟨⟨by decide +kernel, trace_stop_eq_none_iff.mpr ⟨[], by decide +kernel⟩, ?_⟩,
    by decide +kernel, ?_⟩
  · rw [trace_stop_eq_some_iff.mpr (processLine_eq_breach_iff.mpr (breaksOff_wide_indentation rfl))]
    exact Option.some_ne_none _
  · rw [hrequests, ← List.nil_append [held, other],
      filledUpTo_append (List.forall_mem_nil _) hbreach [other]]
    refine Nat.le_trans (Trace.length_requests_ofFields_le _) ?_
    have hfields : ([held].flatMap fieldsIn).length = 1 := by decide +kernel
    exact hfields.le

end Infill
