import Infill.Proofs.Trace

/-!
# Sessions, settings and answers

What lookups work with can be had or not.  A session needs two variables of the environment
(`Session.ofEnvironment_eq_error_iff`), and the settings need a key-value file that is not
`Settings.Unusable`.  To ask for a field is refused, tells that the field is absent, or gives its text:
`Secret.Refused`, `Secret.Absent` and `Secret.Present` say which, by the answers of the store alone.
-/

namespace Infill

open Infill.Action

/-- The variable is not set, or empty. -/
def Environment.Lacks (e : Environment) (name : Text) : Prop :=
  e.get? name = none ∨ e.get? name = some []

namespace Session

/-- The first of the variables of a session that the environment lacks. -/
inductive FirstLacking (e : Environment) : Text → Prop
  | host (lacks : e.Lacks hostVariable) : FirstLacking e hostVariable
  | token (has : ¬ e.Lacks hostVariable) (lacks : e.Lacks tokenVariable) :
      FirstLacking e tokenVariable

variable {e : Environment} {name value : Text} {f : Failure} {s : Session}

theorem required_eq_error_iff :
    required e name = .error f ↔ e.Lacks name ∧ f = .configurationMissing name := by
  rw [required, Environment.Lacks]
  split
  · next h => simp [h, eq_comm]
  · next h => simp [h, eq_comm]
  · next hne h =>
    rw [h]
    simp only [reduceCtorEq, Option.some_inj, false_or, false_iff, not_and]
    exact fun hnil => absurd hnil hne

theorem required_eq_ok_iff :
    required e name = .ok value ↔ e.get? name = some value ∧ value ≠ [] := by
  rw [required]
  split
  · next h => simp [h]
  · next h =>
    rw [h]
    simp only [reduceCtorEq, Option.some_inj, false_iff, not_and, not_not]
    exact Eq.symm
  · next hne h =>
    rw [h, Except.ok.injEq, Option.some_inj]
    constructor
    · rintro rfl
      exact ⟨rfl, hne⟩
    · exact And.left

theorem not_lacks_of_required (h : required e name = .ok value) : ¬ e.Lacks name := by
  intro hlacks
  rw [required_eq_error_iff.mpr ⟨hlacks, rfl⟩] at h
  contradiction

theorem ofEnvironment_eq_error_iff :
    ofEnvironment e = .error f ↔ ∃ name, FirstLacking e name ∧ f = .configurationMissing name := by
  rw [ofEnvironment]
  cases hhost : required e hostVariable with
  | error g =>
    obtain ⟨hlacks, rfl⟩ := required_eq_error_iff.mp hhost
    constructor
    · intro h
      exact ⟨_, .host hlacks, (Except.error.inj h).symm⟩
    · rintro ⟨name, hfirst, rfl⟩
      cases hfirst with
      | host => rfl
      | token has => exact absurd hlacks has
  | ok host =>
    have hhas := not_lacks_of_required hhost
    cases htoken : required e tokenVariable with
    | error g =>
      obtain ⟨hlacks, rfl⟩ := required_eq_error_iff.mp htoken
      constructor
      · intro h
        exact ⟨_, .token hhas hlacks, (Except.error.inj h).symm⟩
      · rintro ⟨name, hfirst, rfl⟩
        cases hfirst with
        | host lacks => exact absurd lacks hhas
        | token => rfl
    | ok token =>
      simp only [reduceCtorEq, false_iff]
      rintro ⟨name, hfirst, -⟩
      cases hfirst with
      | host lacks => exact hhas lacks
      | token has lacks => exact not_lacks_of_required htoken lacks

theorem ofEnvironment_eq_ok_iff :
    ofEnvironment e = .ok s ↔ (e.get? hostVariable = some s.host ∧ s.host ≠ []) ∧
      e.get? tokenVariable = some s.token ∧ s.token ≠ [] := by
  rw [← required_eq_ok_iff, ← required_eq_ok_iff, ofEnvironment]
  obtain ⟨host, token⟩ := s
  cases required e hostVariable with
  | error g => simp
  | ok host' => cases required e tokenVariable <;> simp

/-- The session at hand: the one that has been loaded, or else that of the environment, if both of
its variables are there. -/
inductive AtHand (site : Site) (cache : Cache) (s : Session) : Prop
  | held (held : cache.session = some s)
  | loaded (unset : cache.session = none)
      (host : site.world.environment.get? hostVariable = some s.host) (hostGiven : s.host ≠ [])
      (token : site.world.environment.get? tokenVariable = some s.token)
      (tokenGiven : s.token ≠ [])

variable {site : Site} {cache : Cache}

theorem atHand_iff : AtHand site cache s ↔ (Action.session site cache).result = .ok s := by
  constructor
  · rintro (held | ⟨unset, host, hostGiven, token, tokenGiven⟩)
    · simp only [Action.session, held]
    · have hload := ofEnvironment_eq_ok_iff.mpr ⟨⟨host, hostGiven⟩, token, tokenGiven⟩
      simp only [Action.session, unset, hload]
  · intro h
    cases hheld : cache.session with
    | some s' =>
      simp only [Action.session, hheld, Except.ok.injEq] at h
      exact .held (h ▸ hheld)
    | none =>
      cases hload : ofEnvironment site.world.environment with
      | error f => simp only [Action.session, hheld, hload, reduceCtorEq] at h
      | ok s' =>
        simp only [Action.session, hheld, hload, Except.ok.injEq] at h
        subst h
        obtain ⟨⟨host, hostGiven⟩, token, tokenGiven⟩ := ofEnvironment_eq_ok_iff.mp hload
        exact .loaded hheld host hostGiven token tokenGiven

theorem session_eq_error_iff {stop : Stop Failure} :
    (Action.session site cache).result = .error stop ↔ cache.session = none ∧
      ∃ name, FirstLacking site.world.environment name ∧
        stop = .failure (.configurationMissing name) := by
  cases hheld : cache.session with
  | some s' => simp only [Action.session, hheld, reduceCtorEq, false_and]
  | none =>
    simp only [Action.session, hheld, true_and]
    cases hload : Session.ofEnvironment site.world.environment with
    | ok s' =>
      simp only [reduceCtorEq, false_iff]
      rintro ⟨name, hlacking, -⟩
      have hfails := ofEnvironment_eq_error_iff.mpr ⟨name, hlacking, rfl⟩
      rw [hload] at hfails
      contradiction
    | error f =>
      obtain ⟨name, hlacking, rfl⟩ := ofEnvironment_eq_error_iff.mp hload
      simp only [Except.error.injEq]
      constructor
      · rintro rfl
        exact ⟨name, hlacking, rfl⟩
      · rintro ⟨other, hother, rfl⟩
        have hfails := ofEnvironment_eq_error_iff.mpr ⟨other, hother, rfl⟩
        rw [hload] at hfails
        exact congrArg Stop.failure (Except.error.inj hfails)

end Session

namespace Settings

/-- The key-value file cannot be used. -/
inductive Unusable (disk : Disk) (path : Path) : Prop
  | missing (missing : disk.isThere path = false)
  | notRegular (notRegular : disk.isDirectory path = true ∨ disk.isFile path = false)
  | empty (empty : disk.size path = .ok 0)
  | unreadable {reason : Text}
      (unreadable : disk.size path = .error reason ∨ disk.read path = .error reason)
  | malformed {content : Text} {fault : SettingsFault} (read : disk.read path = .ok content)
      (malformed : parse content = .error fault)

variable {disk : Disk} {path : Path} {site : Site} {cache : Cache} {f : Failure}

theorem unusable_of_load_error (h : load disk path = .error f) :
    Unusable disk path ∧ ∃ reason, f = .sourceUnreadable path reason := by
  rw [load] at h
  split at h
  · next reason hreason =>
    refine ⟨?_, reason, (Except.error.inj h).symm⟩
    rw [unusable?] at hreason
    split at hreason
    · next hmissing => exact .missing (by simpa using hmissing)
    · split at hreason
      · next hdirectory => exact .notRegular (Or.inl hdirectory)
      · split at hreason
        · next hfile => exact .notRegular (Or.inr (by simpa using hfile))
        · split at hreason
          · next hsize => exact .unreadable (Or.inl hsize)
          · next size hsize =>
            split at hreason
            · next hzero => exact .empty (hzero ▸ hsize)
            · contradiction
  · split at h
    · next reason hread =>
      exact ⟨.unreadable (Or.inr hread), reason, (Except.error.inj h).symm⟩
    · next content hread =>
      split at h
      · contradiction
      · next fault hparse =>
        exact ⟨.malformed hread hparse, fault.message, (Except.error.inj h).symm⟩

theorem not_unusable_of_load {s : Settings} (h : load disk path = .ok s) :
    ¬ Unusable disk path := by
  rw [load] at h
  split at h
  · contradiction
  · next hnone =>
    rw [unusable?] at hnone
    split_ifs at hnone with hthere hdirectory hfile
    split at hnone
    · contradiction
    · next size hsize =>
      split_ifs at hnone with hzero
      split at h
      · contradiction
      · next content hread =>
        split at h
        · next hparse =>
          rintro (hmissing | hregular | hempty | hunreadable | ⟨hread', hmalformed⟩)
          · simp [hmissing] at hthere
          · rcases hregular with hregular | hregular
            · exact hdirectory hregular
            · simp [hregular] at hfile
          · exact hzero (Except.ok.inj (hsize.symm.trans hempty))
          · rcases hunreadable with hunreadable | hunreadable
            · simp [hsize] at hunreadable
            · simp [hread] at hunreadable
          · obtain rfl := Except.ok.inj (hread.symm.trans hread')
            simp [hparse] at hmalformed
        · contradiction

/-- The settings at hand: those that have been loaded, or else those of the key-value file, if it can
be used. -/
inductive AtHand (site : Site) (cache : Cache) (s : Settings) : Prop
  | held (held : cache.settings = some s)
  | loaded (unset : cache.settings = none)
      (loads : load site.world.disk site.settingsPath = .ok s)

theorem atHand_iff {s : Settings} :
    AtHand site cache s ↔ (Action.settings site cache).result = .ok s := by
  constructor
  · rintro (held | ⟨unset, loads⟩)
    · simp only [Action.settings, held]
    · simp only [Action.settings, unset, loads]
  · intro h
    cases hheld : cache.settings with
    | some s' =>
      simp only [Action.settings, hheld, Except.ok.injEq] at h
      exact .held (h ▸ hheld)
    | none =>
      cases hload : Settings.load site.world.disk site.settingsPath with
      | error f => simp only [Action.settings, hheld, hload, reduceCtorEq] at h
      | ok s' =>
        simp only [Action.settings, hheld, hload, Except.ok.injEq] at h
        exact .loaded hheld (h ▸ hload)

theorem settings_eq_error {stop : Stop Failure}
    (h : (Action.settings site cache).result = .error stop) :
    cache.settings = none ∧ Unusable site.world.disk site.settingsPath ∧
      ∃ reason, stop = .failure (.sourceUnreadable site.settingsPath reason) := by
  cases hheld : cache.settings with
  | some s => simp only [Action.settings, hheld, reduceCtorEq] at h
  | none =>
    cases hload : Settings.load site.world.disk site.settingsPath with
    | ok s => simp only [Action.settings, hheld, hload, reduceCtorEq] at h
    | error g =>
      simp only [Action.settings, hheld, hload, Except.error.injEq] at h
      obtain ⟨hunusable, reason, rfl⟩ := unusable_of_load_error hload
      exact ⟨rfl, hunusable, reason, h.symm⟩

theorem exists_settings_error (hnone : cache.settings = none)
    (h : Unusable site.world.disk site.settingsPath) :
    ∃ stop, (Action.settings site cache).result = .error stop := by
  cases hload : Settings.load site.world.disk site.settingsPath with
  | ok s => exact absurd h (not_unusable_of_load hload)
  | error f =>
    refine ⟨.failure f, ?_⟩
    simp only [Action.settings, hnone, hload]

end Settings

namespace Json
/-- A value does not start with white space of any kind. -/
theorem takeValue_of_blank (depth : Nat) {c : Char} (h : Text.isBlank c) (t : Text) :
    takeValue depth (c :: t) = .error .value := by
  have hne : ∀ b, Text.isBlank b = false → (c == b) = false := by
    intro b hb
    rw [beq_eq_false_iff_ne]
    rintro rfl
    simp [h] at hb
  unfold takeValue
  simp [hne, Text.isDigit_of_blank h, Text.isBlank]

theorem parse_of_blank {t : Text} (h : ∀ c ∈ t, Text.isBlank c) : parse t = .error .value := by
  have hvalue : takeValue depthLimit (skipBlanks t) = .error .value := by
    obtain hnil | ⟨c, rest, hcons, -⟩ := dropWhile_eq_nil_or_cons isBlank t
    · rw [skipBlanks, hnil]
      unfold takeValue
      rfl
    · have hc : c ∈ t := by
        have hmem : c ∈ t.dropWhile isBlank := hcons ▸ List.mem_cons_self
        exact (List.dropWhile_sublist _).mem hmem
      rw [skipBlanks, hcons]
      exact takeValue_of_blank depthLimit (h c hc) rest
  simp only [parse, hvalue]
end Json

namespace Secret

/-- The text is a URL that the path of a secret can be added to. -/
def IsBase (host : Text) : Prop :=
  ∃ base parts, Url.parse host = .ok base ∧ base.trail = .segments parts

/-- The answer of the store to the request for a secret. -/
def Answers (answer : Request → Except Text Response) (s : Session) (path : Text)
    (response : Response) : Prop :=
  ∃ r, request s path = .ok r ∧ answer r = .ok response

/-- A status of success. -/
def IsSuccess (status : Nat) : Prop := 200 ≤ status ∧ status ≤ 299

/-- The secret cannot be asked for, or the answer is nothing to go on with. -/
inductive Refused (answer : Request → Except Text Response) (s : Session) (path : Text) : Prop
  | noBase (noBase : ¬ IsBase s.host)
  | unanswered {r : Request} {reason : Text} (asked : request s path = .ok r)
      (unanswered : answer r = .error reason)
  | status {response : Response} (answers : Answers answer s path response)
      (notMissing : response.status ≠ 404) (noSuccess : ¬ IsSuccess response.status)
  | malformed {response : Response} {fault : Json.Fault} (answers : Answers answer s path response)
      (success : IsSuccess response.status)
      (written : ∃ c ∈ response.body, Text.isBlank c = false)
      (malformed : Json.parse response.body = .error fault)

/-- The answer is a success with a JSON document. -/
def Documents (answer : Request → Except Text Response) (s : Session) (path : Text)
    (document : Json) : Prop :=
  ∃ response, Answers answer s path response ∧ IsSuccess response.status ∧
    Json.parse response.body = .ok document

/-- The answer says that the secret, its fields or the field are not there. -/
inductive Absent (answer : Request → Except Text Response) (s : Session) (path key : Text) : Prop
  | noSecret {response : Response} (answers : Answers answer s path response)
      (missing : response.status = 404)
  | noBody {response : Response} (answers : Answers answer s path response)
      (success : IsSuccess response.status) (blank : ∀ c ∈ response.body, Text.isBlank c)
  | noFields {document : Json} (documents : Documents answer s path document)
      (noFields : fields? document = none)
  | noField {document : Json} {members : List (Text × Json)}
      (documents : Documents answer s path document) (fields : fields? document = some members)
      (noField : Json.lookUp key members = none ∨ Json.lookUp key members = some .null)

/-- The answer gives the field with this text: that of a string, or the JSON text of any other value
but `null`. -/
inductive Present (answer : Request → Except Text Response) (s : Session) (path key : Text) :
    Text → Prop
  | string {document : Json} {members : List (Text × Json)} {t : Text}
      (documents : Documents answer s path document) (fields : fields? document = some members)
      (field : Json.lookUp key members = some (.string t)) : Present answer s path key t
  | other {document value : Json} {members : List (Text × Json)}
      (documents : Documents answer s path document) (fields : fields? document = some members)
      (field : Json.lookUp key members = some value) (notNull : value ≠ .null)
      (noString : ∀ t, value ≠ .string t) : Present answer s path key value.text

section Answers

variable {answer : Request → Except Text Response} {s : Session} {path key : Text}
  {response : Response}

theorem url_eq_ok_iff : (∃ u, url s path = .ok u) ↔ IsBase s.host := by
  rw [url, IsBase]
  cases hparse : Url.parse s.host with
  | error fault => simp
  | ok base =>
    cases htrail : base.trail with
    | plain t => simp [Url.extend?, htrail]
    | segments parts => simp [Url.extend?, htrail]

theorem request_eq_ok_iff : (∃ r, request s path = .ok r) ↔ IsBase s.host := by
  rw [← @url_eq_ok_iff s path, request]
  cases url s path <;> simp

theorem transport_of_request_error {f : Failure} (h : request s path = .error f) :
    ∃ reason, f = .transport reason := by
  rw [request] at h
  split at h
  · next hurl =>
    obtain rfl := Except.error.inj h
    rw [url] at hurl
    split at hurl
    · exact ⟨_, (Except.error.inj hurl).symm⟩
    · split at hurl
      · exact ⟨_, (Except.error.inj hurl).symm⟩
      · contradiction
  · contradiction

theorem read_of_answers (h : Answers answer s path response) (key : Text) :
    read answer s path key = field path key response := by
  obtain ⟨r, hrequest, hanswer⟩ := h
  simp only [read, hrequest, hanswer]

theorem field_of_missing (h : response.status = 404) :
    field path key response = .error (missing path) := by
  simp [field, h]

theorem field_of_no_success (hfound : response.status ≠ 404) (h : ¬ IsSuccess response.status) :
    ∃ reason, field path key response = .error (.transport reason) := by
  have hstatus : response.status < 200 ∨ 299 < response.status := by
    rw [IsSuccess] at h
    omega
  rw [field, if_neg hfound, if_pos hstatus]
  exact ⟨_, rfl⟩

section Successes

variable {status : Nat} (h : IsSuccess status)
include h

theorem IsSuccess.ne_missing : status ≠ 404 := by
  rw [IsSuccess] at h
  omega

theorem IsSuccess.not_outside : ¬ (status < 200 ∨ 299 < status) := by
  rw [IsSuccess] at h
  omega

end Successes

theorem field_of_blank (h : IsSuccess response.status)
    (hblank : ∀ c ∈ response.body, Text.isBlank c) :
    field path key response = .error (missing path) := by
  rw [field, if_neg h.ne_missing, if_neg h.not_outside, if_pos (Text.trim_eq_nil_iff.mpr hblank)]

theorem field_of_malformed (h : IsSuccess response.status)
    (hwritten : ∃ c ∈ response.body, Text.isBlank c = false) {fault : Json.Fault}
    (hfault : Json.parse response.body = .error fault) :
    ∃ reason, field path key response = .error (.transport reason) := by
  have hbody : Text.trim response.body ≠ [] := by
    obtain ⟨c, hc, hblank⟩ := hwritten
    rw [Ne, Text.trim_eq_nil_iff]
    exact fun hall => by simp [hall c hc] at hblank
  rw [field, if_neg h.ne_missing, if_neg h.not_outside, if_neg hbody, hfault]
  exact ⟨_, rfl⟩

theorem trim_ne_nil_of_document {body : Text} {document : Json}
    (hdocument : Json.parse body = .ok document) : Text.trim body ≠ [] := by
  rw [Ne, Text.trim_eq_nil_iff]
  intro hblank
  rw [Json.parse_of_blank hblank] at hdocument
  contradiction

theorem read_of_noFields {document : Json} (h : Documents answer s path document)
    (hfields : fields? document = none) (key : Text) :
    read answer s path key = .error (withoutFields path) := by
  obtain ⟨response, hanswers, hsuccess, hdocument⟩ := h
  rw [read_of_answers hanswers, field, if_neg hsuccess.ne_missing, if_neg hsuccess.not_outside,
    if_neg (trim_ne_nil_of_document hdocument)]
  simp only [hdocument, hfields]

theorem read_of_fields {document : Json} (h : Documents answer s path document)
    {members : List (Text × Json)} (hfields : fields? document = some members) (key : Text) :
    read answer s path key = fieldText key (Json.lookUp key members) := by
  obtain ⟨response, hanswers, hsuccess, hdocument⟩ := h
  rw [read_of_answers hanswers, field, if_neg hsuccess.ne_missing, if_neg hsuccess.not_outside,
    if_neg (trim_ne_nil_of_document hdocument)]
  simp only [hdocument, hfields]

theorem read_of_refused (h : Refused answer s path) (key : Text) :
    ∃ reason, read answer s path key = .error (.transport reason) := by
  cases h with
  | noBase noBase =>
    cases hrequest : request s path with
    | ok r => exact absurd (request_eq_ok_iff.mp ⟨r, hrequest⟩) noBase
    | error f =>
      obtain ⟨reason, rfl⟩ := transport_of_request_error hrequest
      exact ⟨reason, by simp only [read, hrequest]⟩
  | @unanswered r reason asked unanswered => exact ⟨reason, by simp only [read, asked, unanswered]⟩
  | status answers notMissing noSuccess =>
    rw [read_of_answers answers]
    exact field_of_no_success notMissing noSuccess
  | malformed answers success written malformed =>
    rw [read_of_answers answers]
    exact field_of_malformed success written malformed

theorem read_of_absent (h : Absent answer s path key) :
    ∃ what, read answer s path key = .error (.notFound what) := by
  cases h with
  | noSecret answers missing =>
    rw [read_of_answers answers, field_of_missing missing]
    exact ⟨_, rfl⟩
  | noBody answers success blank =>
    rw [read_of_answers answers, field_of_blank success blank]
    exact ⟨_, rfl⟩
  | noFields documents noFields =>
    rw [read_of_noFields documents noFields]
    exact ⟨_, rfl⟩
  | noField documents fields noField =>
    rw [read_of_fields documents fields]
    rcases noField with noField | noField
    · rw [noField]
      exact ⟨_, rfl⟩
    · rw [noField]
      exact ⟨_, rfl⟩

theorem read_of_present {t : Text} (h : Present answer s path key t) :
    read answer s path key = .ok t := by
  cases h with
  | string documents fields field =>
    rw [read_of_fields documents fields, field]
    rfl
  | @other document value members documents fields field notNull noString =>
    rw [read_of_fields documents fields, field]
    cases value with
    | null => exact absurd rfl notNull
    | string t => exact absurd rfl (noString t)
    | bool b => rfl
    | number n => rfl
    | array items => rfl
    | object members => rfl

/-- An answer is always one of the three. -/
theorem refused_or_absent_or_present (answer : Request → Except Text Response) (s : Session)
    (path key : Text) :
    Refused answer s path ∨ Absent answer s path key ∨ ∃ t, Present answer s path key t := by
  by_cases hbase : IsBase s.host
  swap
  · exact Or.inl (.noBase hbase)
  obtain ⟨r, hrequest⟩ := (@request_eq_ok_iff s path).mpr hbase
  cases hanswer : answer r with
  | error reason => exact Or.inl (.unanswered hrequest hanswer)
  | ok response =>
    have answers : Answers answer s path response := ⟨r, hrequest, hanswer⟩
    by_cases hmissing : response.status = 404
    · exact Or.inr (Or.inl (.noSecret answers hmissing))
    by_cases hsuccess : IsSuccess response.status
    swap
    · exact Or.inl (.status answers hmissing hsuccess)
    by_cases hblank : ∀ c ∈ response.body, Text.isBlank c
    · exact Or.inr (Or.inl (.noBody answers hsuccess hblank))
    cases hparse : Json.parse response.body with
    | error fault =>
      exact Or.inl (.malformed answers hsuccess (by simpa using hblank) hparse)
    | ok document =>
      have documents : Documents answer s path document := ⟨response, answers, hsuccess, hparse⟩
      cases hfields : fields? document with
      | none => exact Or.inr (Or.inl (.noFields documents hfields))
      | some members =>
        cases hfield : Json.lookUp key members with
        | none => exact Or.inr (Or.inl (.noField documents hfields (Or.inl hfield)))
        | some value =>
          by_cases hnull : value = .null
          · exact Or.inr (Or.inl (.noField documents hfields (Or.inr (hnull ▸ hfield))))
          by_cases hstring : ∃ t, value = .string t
          · obtain ⟨t, rfl⟩ := hstring
            exact Or.inr (Or.inr ⟨t, .string documents hfields hfield⟩)
          · exact Or.inr (Or.inr ⟨value.text, .other documents hfields hfield hnull
              (fun t ht => hstring ⟨t, ht⟩)⟩)

end Answers

end Secret

end Infill
