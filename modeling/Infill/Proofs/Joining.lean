import Infill.Proofs.Undecodable

/-!
# Streams one behind the other

A stream whose lines are all ended comes in front of another one: first it comes to what it comes to
alone, and then the other one does, with its lines counted on (`processAll_join`).  How the last
line is ended makes no difference, nor do carriage returns in front of all line feeds.
-/

namespace Infill

open Infill.Action

/-- What becomes of a stop when `k` more lines stand in front: the number of a line goes up. -/
inductive Stop.Below (k : Nat) : Stop Failure → Stop Failure → Prop
  | undecodable (n : Nat) : Below k (failure (.undecodable n)) (failure (.undecodable (n + k)))
  | other {stop : Stop Failure} (unnumbered : ∀ reason, stop ≠ failure (.invalidInput reason)) :
      Below k stop stop

/-- What becomes of a result when `k` more lines stand in front. -/
inductive ResultBelow {α : Type} (k : Nat) :
    Except (Stop Failure) α → Except (Stop Failure) α → Prop
  | ok (a : α) : ResultBelow k (.ok a) (.ok a)
  | error {stop stop' : Stop Failure} (below : stop.Below k stop') :
      ResultBelow k (.error stop) (.error stop')

/-- What becomes of an outcome when `k` more lines stand in front. -/
structure Outcome.Below {α : Type} (k : Nat) (out out' : Outcome α) : Prop where
  result : ResultBelow k out.result out'.result
  cache : out'.cache = out.cache
  events : out'.events = out.events

/-- What a stream comes to behind another one, which has `k` lines. -/
structure Joins (k : Nat) (left right both : Outcome Bytes) : Prop where
  filled : ∀ out out', left.result = .ok out → right.result = .ok out' →
    both.result = .ok (out ++ out') ∧ both.events = left.events ++ right.events
  leftStops : ∀ stop, left.result = .error stop →
    both.result = .error stop ∧ both.events = left.events
  rightStops : ∀ out stop, left.result = .ok out → right.result = .error stop →
    (∃ stop', stop.Below k stop' ∧ both.result = .error stop') ∧
      both.events = left.events ++ right.events

/-- A carriage return in front of every line feed. -/
def withReturns (bytes : Bytes) : Bytes :=
  bytes.flatMap fun b => if b = lineFeed then [carriageReturn, lineFeed] else [b]

/-- Fills a stream whose first line has the given number. -/
def processFrom [Pattern.Limit] (number : Nat) (input : Input) : Action Bytes :=
  processLines number input.lines >>= fun filled =>
    match input.fault with
    | some reason => Action.fail (.io reason)
    | none => pure filled

section Numbers

variable {α β : Type} {k : Nat} {site : Site} {cache : Cache}

/-- Where no line is numbered, nothing changes. -/
theorem Outcome.Below.same {out : Outcome α}
    (h : ∀ reason, out.result ≠ .error (.failure (.invalidInput reason))) : out.Below k out := by
  refine ⟨?_, rfl, rfl⟩
  cases hresult : out.result with
  | ok a => exact .ok a
  | error stop =>
    exact .error (.other fun reason hstop => h reason (hresult.trans (congrArg _ hstop)))

theorem Outcome.Below.bind {x y : Action α} {f g : α → Action β}
    (hxy : (x site cache).Below k (y site cache))
    (hfg : ∀ a cache, (f a site cache).Below k (g a site cache)) :
    ((x >>= f) site cache).Below k ((y >>= g) site cache) := by
  obtain ⟨hresult, hcache, hevents⟩ := hxy
  generalize hx : (x site cache).result = result at hresult
  generalize hy : (y site cache).result = result' at hresult
  cases hresult with
  | ok a =>
    obtain ⟨hnext, hnextCache, hnextEvents⟩ := hfg a (x site cache).cache
    rw [bind_of_ok hx, bind_of_ok hy, hcache]
    exact ⟨hnext, hnextCache, by rw [hevents, hnextEvents]⟩
  | error hbelow =>
    rw [bind_of_error hx, bind_of_error hy]
    exact ⟨.error hbelow, hcache, hevents⟩

variable [Pattern.Limit]

/-- Only the failure of a line that is not UTF-8 tells the number of the line. -/
theorem processRaw_below (number : Nat) (line : Bytes) :
    (processRaw number line site cache).Below k (processRaw (number + k) line site cache) := by
  cases hdecode : Utf8.decode? (chompReturn line) with
  | some text =>
    rw [processRaw_of_text hdecode, processRaw_of_text hdecode]
    refine .same fun reason h => ?_
    rcases bind_result_eq_error_iff.mp h with h | ⟨filled, -, h⟩
    · cases ofLine_of_processLine h
    · simp [pure_apply] at h
  | none =>
    rw [processRaw_of_undecodable hdecode, processRaw_of_undecodable hdecode, copyRaw_apply,
      copyRaw_apply]
    refine ⟨?_, rfl, rfl⟩
    dsimp only
    split
    · exact .error (.undecodable number)
    · exact .ok _

theorem processLines_below (number : Nat) (lines : List Bytes) :
    (processLines number lines site cache).Below k
      (processLines (number + k) lines site cache) := by
  induction lines generalizing number cache with
  | nil => exact .same (by simp [processLines, pure_apply])
  | cons line lines ih =>
    have hnumber : number + k + 1 = number + 1 + k := Nat.add_right_comm number k 1
    rw [processLines_cons, processLines_cons, hnumber]
    refine .bind (processRaw_below number line) fun filled cache => ?_
    refine .bind (ih (number + 1)) fun more cache => .same ?_
    simp [pure_apply]

theorem processFrom_below (number : Nat) (input : Input) :
    (processFrom number input site cache).Below k
      (processFrom (number + k) input site cache) := by
  refine .bind (processLines_below number input.lines) fun filled cache => .same ?_
  cases input.fault <;> simp [pure_apply, Action.fail, Action.ofResult, Except.mapError]

end Numbers

section Lines

variable {a b : Bytes}

theorem terminated_append (lines lines' : List Bytes) :
    terminated (lines ++ lines') = terminated lines ++ terminated lines' := List.flatMap_append

theorem exists_terminated_of_ended (h : a = [] ∨ a.getLast? = some lineFeed) :
    ∃ lines, a = terminated lines ∧ ∀ line ∈ lines, lineFeed ∉ line := by
  obtain ⟨lines, rest, rfl, hlines, hrest⟩ := exists_terminated a
  have hnil : rest = [] := by
    by_contra hne
    rw [List.append_eq_nil_iff, List.getLast?_append_of_ne_nil _ hne] at h
    rcases h with h | h
    · exact hne h.2
    · exact hrest (List.mem_of_getLast? h)
  subst hnil
  exact ⟨lines, List.append_nil _, hlines⟩

theorem count_terminated {lines : List Bytes} (hlines : ∀ line ∈ lines, lineFeed ∉ line) :
    (terminated lines).count lineFeed = lines.length := by
  induction lines with
  | nil => rfl
  | cons line lines ih =>
    obtain ⟨hline, hlines⟩ := List.forall_mem_cons.mp hlines
    have hcons : terminated (line :: lines) = (line ++ [lineFeed]) ++ terminated lines := rfl
    rw [hcons, List.count_append, List.count_append, List.count_eq_zero_of_not_mem hline,
      ih hlines, List.length_cons]
    simp [Nat.add_comm]

theorem Input.lines_join {lines : List Bytes} (hlines : ∀ line ∈ lines, lineFeed ∉ line)
    (input : Input) : ({ input with bytes := terminated lines ++ input.bytes } : Input).lines =
      lines ++ input.lines := by
  obtain ⟨bytes, fault⟩ := input
  obtain ⟨lines', rest, rfl, hlines', hrest⟩ := exists_terminated bytes
  have hall : ∀ line ∈ lines ++ lines', lineFeed ∉ line :=
    List.forall_mem_append.mpr ⟨hlines, hlines'⟩
  simp only
  rw [← List.append_assoc, ← terminated_append, lines_terminated _ _ hall hrest,
    lines_terminated _ _ hlines' hrest]
  split
  · rfl
  · rw [List.append_assoc]

/-- A line feed behind the last line makes no difference to the lines. -/
theorem Input.lines_concat {bytes : Bytes} (hne : bytes ≠ [])
    (hlast : bytes.getLast? ≠ some lineFeed) :
    ({ bytes := bytes ++ [lineFeed] } : Input).lines = ({ bytes } : Input).lines := by
  obtain ⟨lines, rest, rfl, hlines, hrest⟩ := exists_terminated bytes
  have hrestNe : rest ≠ [] := by
    rintro rfl
    rw [List.append_nil] at hne hlast
    obtain ⟨lines, line, rfl⟩ := (List.eq_nil_or_concat' lines).resolve_left fun h => hne (h ▸ rfl)
    rw [terminated_append] at hlast
    simp [terminated] at hlast
  have hjoin : terminated lines ++ rest ++ [lineFeed] = terminated (lines ++ [rest]) ++ [] := by
    simp [terminated]
  have hall : ∀ line ∈ lines ++ [rest], lineFeed ∉ line :=
    List.forall_mem_append.mpr ⟨hlines, List.forall_mem_singleton.mpr hrest⟩
  rw [hjoin, lines_terminated _ _ hall List.not_mem_nil, lines_terminated _ _ hlines hrest]
  simp [hrestNe]

/-- Lines are filled in the same way if they are the same without the carriage returns at their
ends. -/
theorem processLines_congr [Pattern.Limit] {lines lines' : List Bytes}
    (h : lines.map chompReturn = lines'.map chompReturn) (number : Nat) :
    processLines number lines = processLines number lines' := by
  induction lines generalizing lines' number with
  | nil =>
    rw [List.map_nil, eq_comm, List.map_eq_nil_iff] at h
    rw [h]
  | cons line lines ih =>
    obtain ⟨line', more, rfl, hline, hmore⟩ := List.map_eq_cons_iff.mp h.symm
    have hraw : processRaw number line = processRaw number line' := by
      simp only [processRaw, hline]
    rw [processLines_cons, processLines_cons, hraw, ih hmore.symm]

theorem withReturns_append (a b : Bytes) : withReturns (a ++ b) = withReturns a ++ withReturns b :=
  List.flatMap_append

theorem withReturns_of_not_mem (h : lineFeed ∉ a) : withReturns a = a := by
  induction a with
  | nil => rfl
  | cons x a ih =>
    obtain ⟨hne, hrest⟩ : lineFeed ≠ x ∧ lineFeed ∉ a := by simpa using h
    have hcons : withReturns (x :: a) =
        (if x = lineFeed then [carriageReturn, lineFeed] else [x]) ++ withReturns a := rfl
    rw [hcons, if_neg (Ne.symm hne), ih hrest, List.singleton_append]

theorem withReturns_terminated {lines : List Bytes} (hlines : ∀ line ∈ lines, lineFeed ∉ line) :
    withReturns (terminated lines) = terminated (lines.map (· ++ [carriageReturn])) := by
  induction lines with
  | nil => rfl
  | cons line lines ih =>
    obtain ⟨hline, hlines⟩ := List.forall_mem_cons.mp hlines
    have hcons : ∀ (line : Bytes) lines,
        terminated (line :: lines) = (line ++ [lineFeed]) ++ terminated lines := fun _ _ => rfl
    have hfeed : withReturns [lineFeed] = [carriageReturn, lineFeed] := rfl
    rw [List.map_cons, hcons, hcons, withReturns_append, withReturns_append,
      withReturns_of_not_mem hline, hfeed, ih hlines]
    simp only [List.append_assoc, List.cons_append, List.nil_append]

theorem chompReturn_concat (line : Bytes) : chompReturn (line ++ [carriageReturn]) = line := by
  rw [chompReturn, if_pos List.getLast?_concat, List.dropLast_concat]

/-- Carriage returns in front of all line feeds are dropped again. -/
theorem Input.map_chompReturn_lines_withReturns {input : Input}
    (h : ∀ line ∈ input.lines, line.getLast? ≠ some carriageReturn) :
    ({ input with bytes := withReturns input.bytes } : Input).lines.map chompReturn =
      input.lines.map chompReturn := by
  obtain ⟨bytes, fault⟩ := input
  obtain ⟨lines, rest, rfl, hlines, hrest⟩ := exists_terminated bytes
  have hreturns : withReturns (terminated lines ++ rest) =
      terminated (lines.map (· ++ [carriageReturn])) ++ rest := by
    rw [withReturns_append, withReturns_terminated hlines, withReturns_of_not_mem hrest]
  have hfed : ∀ line ∈ lines.map (· ++ [carriageReturn]), lineFeed ∉ line := by
    intro line hline
    obtain ⟨bare, hbare, rfl⟩ := List.mem_map.mp hline
    simpa using ⟨hlines bare hbare, (by decide : lineFeed ≠ carriageReturn)⟩
  rw [lines_terminated lines rest hlines hrest] at h ⊢
  simp only [hreturns]
  rw [lines_terminated _ rest hfed hrest]
  have hchomp : (lines.map (· ++ [carriageReturn])).map chompReturn = lines.map chompReturn := by
    rw [List.map_map]
    refine List.map_congr_left fun line hline => ?_
    have hend : line.getLast? ≠ some carriageReturn := by
      refine h line ?_
      split
      · exact hline
      · exact List.mem_append_left _ hline
    rw [Function.comp_apply, chompReturn_concat, chompReturn, if_neg hend]
  split
  · exact hchomp
  · rw [List.map_append, List.map_append, hchomp]

end Lines

section Streams

variable [Pattern.Limit] {site : Site} {cache : Cache}

theorem composed_processFrom (number : Nat) (input : Input) :
    Composed (processFrom number input) := by
  refine .bind (composed_processLines number _) fun filled => ?_
  cases input.fault with
  | some reason => exact .ofResult _
  | none => exact .pure _

theorem processAll_terminated {lines : List Bytes} (hlines : ∀ line ∈ lines, lineFeed ∉ line) :
    processAll { bytes := terminated lines } = processLines 1 lines := by
  have hread := Input.lines_terminated lines [] hlines List.not_mem_nil none
  rw [List.append_nil] at hread
  rw [processAll_of_no_fault rfl, hread]
  simp

/-- A stream behind ended lines is filled as the lines are and then with its lines counted on. -/
theorem processAll_append {lines : List Bytes} (hlines : ∀ line ∈ lines, lineFeed ∉ line)
    (input : Input) : processAll { input with bytes := terminated lines ++ input.bytes } =
      processAll { bytes := terminated lines } >>= fun filled =>
        processFrom (1 + lines.length) input >>= fun more => pure (filled ++ more) := by
  rw [processAll_terminated hlines, processAll, Input.lines_join hlines, processLines_append]
  simp only [processFrom, bind_assoc, pure_bind]
  congr 1
  funext filled
  congr 1
  funext more
  cases input.fault with
  | none => simp only [pure_bind]
  | some reason => rfl

theorem joins_of_ended {a : Bytes} (h : a = [] ∨ a.getLast? = some lineFeed) (input : Input) :
    Joins (a.count lineFeed) (processAll { bytes := a } site cache) (processAll input site cache)
      (processAll { input with bytes := a ++ input.bytes } site cache) := by
  obtain ⟨lines, rfl, hlines⟩ := exists_terminated_of_ended h
  have hjoin := processAll_append hlines input
  rw [count_terminated hlines, hjoin]
  generalize hleft : processAll { bytes := terminated lines } = left
  have hsteady : Steady left := hleft ▸ (composed_processAll _).steady
  obtain ⟨-, -, hloaded⟩ := hsteady site cache cache (.refl site cache)
  -- What the first stream has loaded makes no difference to the second one.
  obtain ⟨hresult, hevents, -⟩ :=
    (composed_processFrom (1 + lines.length) input).steady site cache _ hloaded
  have hbelow : (processAll input site cache).Below lines.length
      (processFrom (1 + lines.length) input site cache) := processFrom_below 1 input
  have hboth : ∀ out, (left site cache).result = .ok out →
      ((left >>= fun filled => processFrom (1 + lines.length) input >>= fun more =>
          pure (filled ++ more)) site cache).result =
        (processFrom (1 + lines.length) input site cache).result.map (out ++ ·) := by
    intro out hout
    rw [bind_of_ok hout, result_bind_pure, hresult]
  have hevents' : ∀ out, (left site cache).result = .ok out →
      ((left >>= fun filled => processFrom (1 + lines.length) input >>= fun more =>
          pure (filled ++ more)) site cache).events =
        (left site cache).events ++ (processAll input site cache).events := by
    intro out hout
    rw [bind_of_ok hout, ← hbelow.events, ← hevents]
    simp only [events_bind_pure]
  constructor
  · intro out out' hout hout'
    have hsame := hbelow.result
    rw [hout'] at hsame
    refine ⟨?_, hevents' out hout⟩
    rw [hboth out hout]
    generalize (processFrom (1 + lines.length) input site cache).result = result at hsame ⊢
    cases hsame with
    | ok => rfl
  · intro stop hstop
    rw [bind_of_error hstop]
    exact ⟨rfl, rfl⟩
  · intro out stop hout hstop
    have hsame := hbelow.result
    rw [hstop] at hsame
    refine ⟨?_, hevents' out hout⟩
    rw [hboth out hout]
    generalize (processFrom (1 + lines.length) input site cache).result = result at hsame ⊢
    cases hsame with
    | error below => exact ⟨_, below, rfl⟩

end Streams

/-- Ended lines and a stream behind them come to what they come to one after the other, with the
lines of the stream counted on. -/
theorem processAll_join [Pattern.Limit] (site : Site) (cache : Cache) :
    (∀ a b fault, a = [] ∨ a.getLast? = some lineFeed →
      Joins (a.count lineFeed) (processAll { bytes := a } site cache)
        (processAll { bytes := b, fault } site cache)
        (processAll { bytes := a ++ b, fault } site cache)) ∧
    (∀ bytes, bytes ≠ [] → bytes.getLast? ≠ some lineFeed →
      processAll { bytes := bytes ++ [lineFeed] } site cache =
        processAll { bytes } site cache) ∧
    (∀ input : Input, (∀ line ∈ input.lines, line.getLast? ≠ some carriageReturn) →
      processAll { input with bytes := withReturns input.bytes } site cache =
        processAll input site cache) := by
  refine ⟨?join, ?lastLine, ?returns⟩
  case join =>
    intro a b fault h
    exact joins_of_ended h { bytes := b, fault }
  case lastLine =>
    intro bytes hne hlast
    rw [processAll_of_no_fault rfl, processAll_of_no_fault rfl, Input.lines_concat hne hlast]
  case returns =>
    intro input h
    rw [processAll, processAll, processLines_congr (Input.map_chompReturn_lines_withReturns h)]

end Infill
