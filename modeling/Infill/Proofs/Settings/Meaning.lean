import Infill.Proofs.Settings.Writing

/-!
# What settings mean

The trimmed lines of a file tell what it means.  A line says nothing, or it is the header of a
section, or it is an entry, and an entry is malformed or assigns a value to a key.  A file with a
malformed entry, behind headers as well, is refused for the first of them.  Otherwise the value of a
key is the last one that is assigned to it in front of the first header (`parse_meaning`).
-/

namespace Infill.Settings

/-- The lines of a file without the white space at their ends. -/
def trimmedLines (content : Text) : List Text := (Text.lines content).map Text.trim

/-- The line is empty or a comment. -/
def IsSkipped (line : Text) : Prop := line = [] ∨ line.head? = some '#' ∨ line.head? = some ';'

/-- The line is the header of a section. -/
def IsHeader (line : Text) : Prop := line.head? = some '[' ∧ line.getLast? = some ']'

instance (line : Text) : Decidable (IsHeader line) := inferInstanceAs (Decidable (_ ∧ _))

/-- The line is neither skipped nor a header. -/
def IsEntry (line : Text) : Prop := ¬ IsSkipped line ∧ ¬ IsHeader line

/-- The lines in front of the first header. -/
def visibleLines (content : Text) : List Text :=
  (trimmedLines content).takeWhile fun line => !decide (IsHeader line)

/-- The line is an entry that is refused, for a reason. -/
inductive Malformed (line : Text) : Text → Prop
  | noDelimiter (entry : IsEntry line) (absent : '=' ∉ line ∧ ':' ∉ line) :
      Malformed line ": key-value delimiter not found".toList
  | noKey (entry : IsEntry line) (first : line.head? = some '=' ∨ line.head? = some ':') :
      Malformed line ": empty key".toList

/-- The value that a text stands for: what is in the quotes, if it starts with a quote that is
closed, and what is in front of a comment otherwise. -/
inductive Denotes : Text → Text → Prop
  | quoted {q : Char} {value rest : Text} (quote : q ∈ quotes) (closed : q ∉ value) :
      Denotes (q :: value ++ q :: rest) value
  | bare {before comment : Text}
      (unquoted : ∀ q ∈ quotes, ∀ inner rest, before ++ comment ≠ q :: inner ++ q :: rest)
      (noMark : ∀ c ∈ before, isCommentMark c = false)
      (stops : comment = [] ∨ ∃ mark more, comment = mark :: more ∧ isCommentMark mark) :
      Denotes (before ++ comment) (Text.trim before)

/-- The line is an entry that assigns the value to the key. -/
inductive Assigns : Text → Text → Text → Prop
  | intro {before after value : Text} {delimiter : Char}
      (entry : IsEntry (before ++ delimiter :: after)) (named : before ≠ [])
      (delimits : isDelimiter delimiter) (isFirst : ∀ c ∈ before, isDelimiter c = false)
      (denotes : Denotes (Text.trim after) value) :
      Assigns (before ++ delimiter :: after) (Text.trim before) value

section Values

variable {raw value : Text}

theorem unquote?_eq_some {q : Char} (h : unquote? q raw = some value) :
    q ∉ value ∧ ∃ rest, raw = q :: value ++ q :: rest := by
  cases raw with
  | nil => contradiction
  | cons c raw =>
    rw [unquote?] at h
    split at h
    · next hc =>
      obtain ⟨⟨before, after⟩, hcut, rfl⟩ := Option.map_eq_some_iff.mp h
      obtain ⟨a, ha, rfl⟩ := eq_append_of_cutAt? hcut
      have haq : a = q := by simpa using ha
      subst hc haq
      refine ⟨fun hmem => ?_, after, rfl⟩
      simpa using not_stops_of_cutAt? hcut a hmem
    · contradiction

theorem unquote?_eq_none_iff {q : Char} :
    unquote? q raw = none ↔ ∀ inner rest, raw ≠ q :: inner ++ q :: rest := by
  constructor
  · rintro h inner rest rfl
    rw [List.cons_append, unquote?, if_pos rfl, Option.map_eq_none_iff] at h
    simpa using cutAt?_eq_none_iff.mp h q (by simp)
  · intro h
    cases hvalue : unquote? q raw with
    | none => rfl
    | some value =>
      obtain ⟨-, rest, hraw⟩ := unquote?_eq_some hvalue
      exact absurd hraw (h value rest)

/-- What is read as a quoted text starts with one of the quotes, which is closed. -/
theorem unquoted_iff : (unquote? '"' raw).or ((unquote? '\'' raw).or (unquote? '`' raw)) = none ↔
    ∀ q ∈ quotes, ∀ inner rest, raw ≠ q :: inner ++ q :: rest := by
  simp only [Option.or_eq_none_iff, unquote?_eq_none_iff, quotes, List.forall_mem_cons,
    List.not_mem_nil, false_imp_iff, implies_true, and_true]

theorem valueOf_of_denotes (htrim : Text.trim raw = raw) (h : Denotes raw value) :
    valueOf raw = value := by
  cases h with
  | quoted quote closed => exact valueOf_quoted quote closed _
  | @bare before comment unquoted noMark stops =>
    rw [valueOf, unquoted_iff.mpr unquoted]
    rcases stops with rfl | ⟨mark, more, rfl, hmark⟩
    · rw [List.append_nil] at htrim ⊢
      simp only [cutAt?_eq_none_iff.mpr noMark, htrim]
    · simp only [cutAt?_append noMark hmark]
      -- The text starts with no white space, so neither does what stands in front of the comment.
      cases before with
      | nil => rfl
      | cons c before =>
        have hc := Text.not_blank_of_trimmed htrim
        rw [Text.trim_cons_of_not_blank hc, Text.trimEnd_cons_of_not_blank hc]

theorem exists_denotes (raw : Text) : ∃ value, Denotes raw value := by
  cases hquoted : (unquote? '"' raw).or ((unquote? '\'' raw).or (unquote? '`' raw)) with
  | some value =>
    have hquote : ∃ q ∈ quotes, unquote? q raw = some value := by
      simp only [Option.or_eq_some_iff] at hquoted
      rcases hquoted with h | ⟨-, h | ⟨-, h⟩⟩
      · exact ⟨_, by simp [quotes], h⟩
      · exact ⟨_, by simp [quotes], h⟩
      · exact ⟨_, by simp [quotes], h⟩
    obtain ⟨q, hq, hvalue⟩ := hquote
    obtain ⟨hclosed, rest, rfl⟩ := unquote?_eq_some hvalue
    exact ⟨value, .quoted hq hclosed⟩
  | none =>
    cases hcut : cutAt? isCommentMark raw with
    | none =>
      have hbare : Denotes (raw ++ []) (Text.trim raw) := by
        refine .bare ?_ (cutAt?_eq_none_iff.mp hcut) (Or.inl rfl)
        rw [List.append_nil]
        exact unquoted_iff.mp hquoted
      rw [List.append_nil] at hbare
      exact ⟨_, hbare⟩
    | some cut =>
      obtain ⟨mark, hmark, hraw⟩ := eq_append_of_cutAt? hcut
      subst hraw
      refine ⟨_, .bare (unquoted_iff.mp hquoted) (not_stops_of_cutAt? hcut) ?_⟩
      exact Or.inr ⟨_, _, rfl, hmark⟩

end Values

section Lines

variable {line key value : Text}

theorem readLine_of_skipped (htrim : Text.trim line = line) (h : IsSkipped line) :
    readLine line = .skipped := by
  rcases h with rfl | h | h
  · rfl
  all_goals
    obtain ⟨rest, rfl⟩ := List.head?_eq_some_iff.mp h
    simp only [readLine, htrim]
    rfl

theorem readLine_of_header (htrim : Text.trim line = line) (h : IsHeader line) :
    readLine line = .header := by
  obtain ⟨hfirst, hlast⟩ := h
  obtain ⟨rest, rfl⟩ := List.head?_eq_some_iff.mp hfirst
  simp only [readLine, htrim, hlast]
  rfl

/-- An entry is read at its first delimiter. -/
theorem readLine_of_entry (htrim : Text.trim line = line) (h : IsEntry line) :
    readLine line =
      match cutAt? isDelimiter line with
      | none => .faulty .noDelimiter
      | some (before, after) =>
        if Text.trim before = [] then .faulty .emptyKey
        else .entry (Text.trim before) (valueOf (Text.trim after)) := by
  obtain ⟨hskipped, hheader⟩ := h
  cases line with
  | nil => exact absurd (Or.inl rfl) hskipped
  | cons c rest =>
    have hmark : isCommentMark c = false := by
      rw [Bool.eq_false_iff]
      intro hc
      apply hskipped
      simpa [IsSkipped, isCommentMark] using hc
    have hbracket : (c == '[' && (c :: rest).getLast? == some ']') = false := by
      rw [Bool.eq_false_iff]
      intro hc
      apply hheader
      simpa [IsHeader] using hc
    cases hcut : cutAt? isDelimiter (c :: rest) with
    | none => simp only [readLine, htrim, hmark, hbracket, hcut, Bool.false_eq_true, if_false]
    | some cut => simp only [readLine, htrim, hmark, hbracket, hcut, Bool.false_eq_true, if_false]

/-- What stands in front of a delimiter in a trimmed line is a key, or nothing. -/
theorem trim_before_ne_nil {before after : Text}
    (htrim : Text.trim (before ++ after) = before ++ after) (hnamed : before ≠ []) : Text.trim before ≠ [] := by
  obtain ⟨c, rest, rfl⟩ := List.exists_cons_of_ne_nil hnamed
  rw [Text.trim_cons_of_not_blank (Text.not_blank_of_trimmed htrim)]
  exact List.cons_ne_nil _ _

theorem readLine_of_malformed (htrim : Text.trim line = line) {reason : Text}
    (h : Malformed line reason) : ∃ fault, readLine line = .faulty fault ∧
      ∀ n, ({ line := n, fault } : SettingsFault).message =
        "line ".toList ++ Text.decimal n ++ reason := by
  cases h with
  | noDelimiter entry absent =>
    have hcut : cutAt? isDelimiter line = none := by
      rw [cutAt?_eq_none_iff]
      intro c hc
      have hne : c ≠ '=' ∧ c ≠ ':' :=
        ⟨ne_of_mem_of_not_mem hc absent.1, ne_of_mem_of_not_mem hc absent.2⟩
      simp [isDelimiter, hne]
    refine ⟨.noDelimiter, ?_, fun n => rfl⟩
    rw [readLine_of_entry htrim entry, hcut]
  | noKey entry first =>
    have hcut : ∃ after, cutAt? isDelimiter line = some ([], after) := by
      rcases first with h | h
      all_goals
        obtain ⟨rest, rfl⟩ := List.head?_eq_some_iff.mp h
        exact ⟨rest, rfl⟩
    obtain ⟨after, hcut⟩ := hcut
    refine ⟨.emptyKey, ?_, fun n => rfl⟩
    rw [readLine_of_entry htrim entry, hcut]
    rfl

theorem readLine_of_assigns (htrim : Text.trim line = line) (h : Assigns line key value) :
    readLine line = .entry key value := by
  obtain ⟨entry, named, delimits, isFirst, denotes⟩ := h
  rw [readLine_of_entry htrim entry, cutAt?_append isFirst delimits]
  dsimp only
  rw [if_neg (trim_before_ne_nil htrim named), valueOf_of_denotes (Text.trim_trim _) denotes]

/-- Every line is of one of the four kinds. -/
theorem kind_of_line (line : Text) : IsSkipped line ∨ IsHeader line ∨
    (∃ reason, Malformed line reason) ∨ ∃ key value, Assigns line key value := by
  by_cases hskipped : IsSkipped line
  · exact Or.inl hskipped
  by_cases hheader : IsHeader line
  · exact Or.inr (Or.inl hheader)
  have hentry : IsEntry line := ⟨hskipped, hheader⟩
  cases hcut : cutAt? isDelimiter line with
  | none =>
    have hfree := cutAt?_eq_none_iff.mp hcut
    refine Or.inr (Or.inr (Or.inl ⟨_, .noDelimiter hentry ⟨?_, ?_⟩⟩))
    · intro hmem
      exact absurd (hfree _ hmem) (by decide)
    · intro hmem
      exact absurd (hfree _ hmem) (by decide)
  | some cut =>
    obtain ⟨before, after⟩ := cut
    obtain ⟨delimiter, hdelimits, rfl⟩ := eq_append_of_cutAt? hcut
    by_cases hnamed : before = []
    · subst hnamed
      refine Or.inr (Or.inr (Or.inl ⟨_, .noKey hentry ?_⟩))
      simpa [isDelimiter] using hdelimits
    · obtain ⟨value, hvalue⟩ := exists_denotes (Text.trim after)
      exact Or.inr (Or.inr (Or.inr
        ⟨_, _, .intro hentry hnamed hdelimits (not_stops_of_cutAt? hcut) hvalue⟩))

/-- A line is read as what it is. -/
theorem readLine_cases (htrim : Text.trim line = line) :
    (IsSkipped line ∧ readLine line = .skipped) ∨ (IsHeader line ∧ readLine line = .header) ∨
      (∃ reason fault, Malformed line reason ∧ readLine line = .faulty fault) ∨
      ∃ key value, Assigns line key value ∧ readLine line = .entry key value := by
  rcases kind_of_line line with h | h | ⟨reason, h⟩ | ⟨key, value, h⟩
  · exact Or.inl ⟨h, readLine_of_skipped htrim h⟩
  · exact Or.inr (Or.inl ⟨h, readLine_of_header htrim h⟩)
  · obtain ⟨fault, hfault, -⟩ := readLine_of_malformed htrim h
    exact Or.inr (Or.inr (Or.inl ⟨reason, fault, h, hfault⟩))
  · exact Or.inr (Or.inr (Or.inr ⟨key, value, h, readLine_of_assigns htrim h⟩))

theorem readLine_eq_header_iff (htrim : Text.trim line = line) :
    readLine line = .header ↔ IsHeader line := by
  refine ⟨fun h => ?_, readLine_of_header htrim⟩
  rcases readLine_cases htrim with ⟨-, hread⟩ | ⟨hkind, -⟩ | ⟨_, _, -, hread⟩ | ⟨_, _, -, hread⟩
  · simp [hread] at h
  · exact hkind
  · simp [hread] at h
  · simp [hread] at h

theorem readLine_eq_entry_iff (htrim : Text.trim line = line) :
    readLine line = .entry key value ↔ Assigns line key value := by
  refine ⟨fun h => ?_, readLine_of_assigns htrim⟩
  rcases readLine_cases htrim with ⟨-, hread⟩ | ⟨-, hread⟩ | ⟨_, _, -, hread⟩ | ⟨_, _, hkind, hread⟩
  · simp [hread] at h
  · simp [hread] at h
  · simp [hread] at h
  · rw [hread] at h
    obtain ⟨rfl, rfl⟩ := SettingsLine.entry.inj h
    exact hkind

theorem not_malformed_of_not_faulty (htrim : Text.trim line = line)
    (h : ∀ reason, ¬ Malformed line reason) (fault : LineFault) :
    readLine line ≠ .faulty fault := by
  intro hfault
  rcases readLine_cases htrim with ⟨-, hread⟩ | ⟨-, hread⟩ | ⟨_, _, hkind, -⟩ | ⟨_, _, -, hread⟩
  · simp [hread] at hfault
  · simp [hread] at hfault
  · exact h _ hkind
  · simp [hread] at hfault

end Lines

/-- The key and the value of an entry. -/
def entryOf? (line : Text) : Option (Text × Text) :=
  match readLine line with
  | .entry key value => some (key, value)
  | _ => none

section Files

variable {lines before after : List Text} {line content key value reason : Text}

theorem entryOf?_eq_some_iff (htrim : Text.trim line = line) :
    entryOf? line = some (key, value) ↔ Assigns line key value := by
  rw [← readLine_eq_entry_iff htrim, entryOf?]
  split
  · next hread => simp [hread]
  · next hread =>
    constructor
    · intro h
      contradiction
    · intro h
      exact absurd h (hread key value)

/-- The first malformed line ends the reading, wherever the headers are. -/
theorem readLines_of_faulty {fault : LineFault}
    (hbefore : ∀ l ∈ before, ∀ fault, readLine l ≠ .faulty fault)
    (hline : readLine line = .faulty fault) (n : Nat) (visible : Bool) :
    readLines n visible (before ++ line :: after) =
      .error { line := n + before.length, fault } := by
  induction before generalizing n visible with
  | nil =>
    rw [List.nil_append, readLines, hline]
    rfl
  | cons first before ih =>
    obtain ⟨hfirst, hbefore⟩ := List.forall_mem_cons.mp hbefore
    have hnumber : n + (first :: before).length = n + 1 + before.length := by
      rw [List.length_cons]
      omega
    rw [List.cons_append, readLines, hnumber]
    cases hread : readLine first with
    | skipped => exact ih hbefore (n + 1) visible
    | header => exact ih hbefore (n + 1) false
    | entry key value => simp only [ih hbefore (n + 1) visible]
    | faulty fault' => exact absurd hread (hfirst fault')

/-- Without a malformed line, the entries in front of the first header count. -/
theorem readLines_of_not_faulty (htrim : ∀ l ∈ lines, Text.trim l = l)
    (h : ∀ l ∈ lines, ∀ fault, readLine l ≠ .faulty fault) (n : Nat) (visible : Bool) :
    readLines n visible lines = .ok (if visible then
      (lines.takeWhile fun l => !decide (IsHeader l)).filterMap entryOf? else []) := by
  induction lines generalizing n visible with
  | nil => cases visible <;> rfl
  | cons line lines ih =>
    obtain ⟨hline, htrim⟩ := List.forall_mem_cons.mp htrim
    obtain ⟨hsound, h⟩ := List.forall_mem_cons.mp h
    have hheader := readLine_eq_header_iff hline
    rw [readLines]
    cases hread : readLine line with
    | skipped =>
      have hno : ¬ IsHeader line := by simp [← hheader, hread]
      simp [ih htrim h, hno, entryOf?, hread]
    | header =>
      have hyes : IsHeader line := hheader.mp hread
      simp [ih htrim h, hyes]
    | entry key value =>
      have hno : ¬ IsHeader line := by simp [← hheader, hread]
      cases visible <;> simp [ih htrim h, hno, entryOf?, hread]
    | faulty fault => exact absurd hread (hsound fault)

theorem readLines_map_trim (n : Nat) (visible : Bool) (lines : List Text) :
    readLines n visible (lines.map Text.trim) = readLines n visible lines := by
  induction lines generalizing n visible with
  | nil => rfl
  | cons line lines ih =>
    rw [List.map_cons, readLines, readLines, readLine_congr (Text.trim_trim line)]
    simp only [ih]

theorem trim_of_mem_trimmedLines (h : line ∈ trimmedLines content) : Text.trim line = line := by
  obtain ⟨raw, -, rfl⟩ := List.mem_map.mp h
  exact Text.trim_trim raw

theorem parse_of_malformed (hlines : trimmedLines content = before ++ line :: after)
    (hbefore : ∀ l ∈ before, ∀ r, ¬ Malformed l r) (h : Malformed line reason) :
    ∃ f, parse content = .error f ∧ f.line = before.length + 1 ∧
      f.message = "line ".toList ++ Text.decimal (before.length + 1) ++ reason := by
  have htrim : ∀ l ∈ before ++ line :: after, Text.trim l = l := by
    intro l hl
    exact trim_of_mem_trimmedLines (hlines ▸ hl)
  obtain ⟨fault, hfault, hmessage⟩ := readLine_of_malformed (htrim line (by simp)) h
  have hsound : ∀ l ∈ before, ∀ fault, readLine l ≠ .faulty fault := by
    intro l hl
    exact not_malformed_of_not_faulty (htrim l (List.mem_append_left _ hl)) (hbefore l hl)
  have hread : readLines 1 true (before ++ line :: after) = _ :=
    readLines_of_faulty hsound hfault 1 true
  rw [← hlines, trimmedLines, readLines_map_trim, Nat.add_comm] at hread
  refine ⟨{ line := before.length + 1, fault }, ?_, rfl, hmessage _⟩
  rw [parse, hread]

theorem parse_of_not_malformed (h : ∀ l ∈ trimmedLines content, ∀ r, ¬ Malformed l r) :
    parse content = .ok { entries := (visibleLines content).filterMap entryOf? } := by
  have htrim : ∀ l ∈ trimmedLines content, Text.trim l = l := fun l => trim_of_mem_trimmedLines
  have hread := readLines_of_not_faulty htrim
    (fun l hl => not_malformed_of_not_faulty (htrim l hl) (h l hl)) 1 true
  rw [trimmedLines, readLines_map_trim] at hread
  rw [parse, hread]
  rfl

theorem get?_eq_some_iff {entries : List (Text × Text)} :
    ({ entries } : Settings).get? key = some value ↔
      ∃ before after, entries = before ++ (key, value) :: after ∧ ∀ e ∈ after, e.1 ≠ key := by
  constructor
  · intro h
    obtain ⟨entry, hfind, rfl⟩ := Option.map_eq_some_iff.mp h
    obtain ⟨hkey, after, before, hreverse, hafter⟩ := List.find?_eq_some_iff_append.mp hfind
    have hkey : entry.1 = key := by simpa using hkey
    subst hkey
    refine ⟨before.reverse, after.reverse, ?_, ?_⟩
    · simpa using congrArg List.reverse hreverse
    · intro e he
      simpa using hafter e (List.mem_reverse.mp he)
  · rintro ⟨before, after, rfl, hafter⟩
    exact get?_last value hafter

theorem get?_eq_none_iff {entries : List (Text × Text)} :
    ({ entries } : Settings).get? key = none ↔ ∀ e ∈ entries, e.1 ≠ key := by
  refine ⟨fun h e he hkey => ?_, get?_absent⟩
  simp only [get?, Option.map_eq_none_iff, List.find?_eq_none, List.mem_reverse] at h
  exact h e he (by simp [hkey])

/-- The last line that assigns a value to the key counts. -/
theorem get?_filterMap_eq_some_iff (htrim : ∀ l ∈ lines, Text.trim l = l) :
    ({ entries := lines.filterMap entryOf? } : Settings).get? key = some value ↔
      ∃ before line after, lines = before ++ line :: after ∧ Assigns line key value ∧
        ∀ l ∈ after, ∀ v, ¬ Assigns l key v := by
  rw [get?_eq_some_iff]
  constructor
  · rintro ⟨first, second, hentries, hsecond⟩
    obtain ⟨front, back, rfl, -, hback⟩ := List.filterMap_eq_append_iff.mp hentries
    obtain ⟨gap, line, after, rfl, -, hline, hafter⟩ := List.filterMap_eq_cons_iff.mp hback
    refine ⟨front ++ gap, line, after, by simp, ?_, ?_⟩
    · exact (entryOf?_eq_some_iff (htrim line (by simp))).mp hline
    · intro l hl v hassigns
      have hentry := (entryOf?_eq_some_iff (htrim l (by simp [hl]))).mpr hassigns
      exact hsecond (key, v) (hafter ▸ List.mem_filterMap.mpr ⟨l, hl, hentry⟩) rfl
  · rintro ⟨before, line, after, rfl, hline, hafter⟩
    have hentry := (entryOf?_eq_some_iff (htrim line (by simp))).mpr hline
    refine ⟨before.filterMap entryOf?, after.filterMap entryOf?, ?_, ?_⟩
    · rw [List.filterMap_append, List.filterMap_cons_some hentry]
    · rintro ⟨key', v⟩ he rfl
      obtain ⟨l, hl, hentry⟩ := List.mem_filterMap.mp he
      exact hafter l hl v ((entryOf?_eq_some_iff (htrim l (by simp [hl]))).mp hentry)

theorem get?_filterMap_eq_none_iff (htrim : ∀ l ∈ lines, Text.trim l = l) :
    ({ entries := lines.filterMap entryOf? } : Settings).get? key = none ↔
      ∀ l ∈ lines, ∀ v, ¬ Assigns l key v := by
  rw [get?_eq_none_iff]
  constructor
  · intro h l hl v hassigns
    have hentry := (entryOf?_eq_some_iff (htrim l hl)).mpr hassigns
    exact h (key, v) (List.mem_filterMap.mpr ⟨l, hl, hentry⟩) rfl
  · rintro h ⟨key', v⟩ he rfl
    obtain ⟨l, hl, hentry⟩ := List.mem_filterMap.mp he
    exact h l hl v ((entryOf?_eq_some_iff (htrim l hl)).mp hentry)

theorem Denotes.subset {raw : Text} (h : Denotes raw value) : ∀ c ∈ value, c ∈ raw := by
  cases h with
  | quoted quote closed =>
    intro c hc
    simp [hc]
  | bare unquoted noMark stops =>
    intro c hc
    exact List.mem_append_left _ (Text.mem_of_mem_trim hc)

/-- A key is what can be written as one, and its value is in one line with it. -/
theorem Assigns.isKey (h : Assigns line key value) (htrim : Text.trim line = line)
    (hline : '\n' ∉ line) : IsKey key ∧ '\n' ∉ value := by
  obtain ⟨⟨hskipped, -⟩, named, delimits, isFirst, denotes⟩ := h
  next before after delimiter =>
  have hbefore : '\n' ∉ before := fun hmem => hline (List.mem_append_left _ hmem)
  have hafter : '\n' ∉ after := fun hmem =>
    hline (List.mem_append_right _ (List.mem_cons_of_mem _ hmem))
  refine ⟨⟨⟨trim_before_ne_nil htrim named, Text.trim_trim before, ?noStop⟩, ?noMark⟩, ?oneLine⟩
  case noStop =>
    intro c hc hstop
    have hmem := Text.mem_of_mem_trim hc
    have hfree := isFirst c hmem
    simp only [List.mem_cons, List.not_mem_nil, or_false] at hstop
    rcases hstop with rfl | rfl | rfl
    · exact absurd hfree (by decide)
    · exact absurd hfree (by decide)
    · exact hbefore hmem
  case noMark =>
    obtain ⟨c, rest, rfl⟩ := List.exists_cons_of_ne_nil named
    intro c' hc'
    rw [Text.trim_cons_of_not_blank (Text.not_blank_of_trimmed htrim)] at hc'
    obtain rfl : c = c' := Option.some.inj hc'
    rw [Bool.eq_false_iff]
    intro hmark
    apply hskipped
    simpa [IsSkipped, isCommentMark] using hmark
  case oneLine =>
    intro hmem
    exact hafter (Text.mem_of_mem_trim (denotes.subset _ hmem))

theorem lineFeed_not_mem_of_mem_trimmedLines (h : line ∈ trimmedLines content) : '\n' ∉ line := by
  obtain ⟨raw, hraw, rfl⟩ := List.mem_map.mp h
  intro hmem
  exact Text.lineFeed_not_mem_of_mem_lines hraw (Text.mem_of_mem_trim hmem)

theorem exists_first_malformed (h : ∃ line ∈ lines, ∃ r, Malformed line r) :
    ∃ before line after reason, lines = before ++ line :: after ∧
      (∀ l ∈ before, ∀ r, ¬ Malformed l r) ∧ Malformed line reason := by
  induction lines with
  | nil =>
    obtain ⟨line, hline, -⟩ := h
    contradiction
  | cons first lines ih =>
    by_cases hfirst : ∃ r, Malformed first r
    · obtain ⟨r, hr⟩ := hfirst
      exact ⟨[], first, lines, r, rfl, by simp, hr⟩
    · have hrest : ∃ line ∈ lines, ∃ r, Malformed line r := by
        obtain ⟨line, hline, hmalformed⟩ := h
        rcases List.mem_cons.mp hline with rfl | hline
        · exact absurd hmalformed hfirst
        · exact ⟨line, hline, hmalformed⟩
      obtain ⟨before, line, after, reason, rfl, hbefore, hline⟩ := ih hrest
      refine ⟨first :: before, line, after, reason, rfl, ?_, hline⟩
      intro l hl r hr
      rcases List.mem_cons.mp hl with rfl | hl
      · exact hfirst ⟨r, hr⟩
      · exact hbefore l hl r hr

theorem mem_trimmedLines_of_visible (h : line ∈ visibleLines content) :
    line ∈ trimmedLines content :=
  List.takeWhile_subset _ h

theorem entries_of_parse {s : Settings} (h : parse content = .ok s) :
    s = { entries := (visibleLines content).filterMap entryOf? } := by
  by_cases hmalformed : ∃ line ∈ trimmedLines content, ∃ r, Malformed line r
  · obtain ⟨before, line, after, reason, hlines, hbefore, hline⟩ :=
      exists_first_malformed hmalformed
    obtain ⟨f, hparse, -⟩ := parse_of_malformed hlines hbefore hline
    rw [hparse] at h
    contradiction
  · push Not at hmalformed
    rw [parse_of_not_malformed hmalformed] at h
    exact (Except.ok.inj h).symm

/-- A key with a value is a key, and the value is in one line. -/
theorem isKey_of_get? {s : Settings} (h : parse content = .ok s)
    (hvalue : s.get? key = some value) : IsKey key ∧ '\n' ∉ value := by
  have htrim : ∀ l ∈ visibleLines content, Text.trim l = l := fun l hl =>
    trim_of_mem_trimmedLines (mem_trimmedLines_of_visible hl)
  rw [entries_of_parse h] at hvalue
  obtain ⟨before, line, after, hlines, hassigns, -⟩ :=
    (get?_filterMap_eq_some_iff htrim).mp hvalue
  have hline : line ∈ visibleLines content := by simp [hlines]
  exact hassigns.isKey (htrim line hline)
    (lineFeed_not_mem_of_mem_trimmedLines (mem_trimmedLines_of_visible hline))

/-- A file is refused for its first malformed line.  Otherwise a key has the value that the last
line in front of the first header assigns to it. -/
theorem parse_meaning (content : Text) :
    ((∃ f, parse content = .error f) ↔ ∃ line ∈ trimmedLines content, ∃ r, Malformed line r) ∧
    (∀ before line after reason, trimmedLines content = before ++ line :: after →
      (∀ l ∈ before, ∀ r, ¬ Malformed l r) → Malformed line reason →
        ∃ f, parse content = .error f ∧ f.line = before.length + 1 ∧
          f.message = "line ".toList ++ Text.decimal (before.length + 1) ++ reason) ∧
    ∀ s, parse content = .ok s →
      (∀ key value, s.get? key = some value ↔ ∃ before line after,
        visibleLines content = before ++ line :: after ∧ Assigns line key value ∧
          ∀ l ∈ after, ∀ v, ¬ Assigns l key v) ∧
      (∀ key, s.get? key = none ↔ ∀ line ∈ visibleLines content, ∀ v, ¬ Assigns line key v) ∧
      (∀ content' s', parse content' = .ok s' → visibleLines content' = visibleLines content →
        s' = s) ∧
      ∀ key value, s.get? key = some value → IsKey key ∧ '\n' ∉ value := by
  have hrefused : (∃ line ∈ trimmedLines content, ∃ r, Malformed line r) →
      ∃ f, parse content = .error f := by
    intro h
    obtain ⟨before, line, after, reason, hlines, hbefore, hmalformed⟩ := exists_first_malformed h
    obtain ⟨f, hparse, -⟩ := parse_of_malformed hlines hbefore hmalformed
    exact ⟨f, hparse⟩
  have htrim : ∀ line ∈ visibleLines content, Text.trim line = line := fun line hline =>
    trim_of_mem_trimmedLines (mem_trimmedLines_of_visible hline)
  refine ⟨⟨?refuses, hrefused⟩, ?first, ?accepted⟩
  case refuses =>
    rintro ⟨f, hparse⟩
    by_contra hnone
    push Not at hnone
    rw [parse_of_not_malformed hnone] at hparse
    contradiction
  case first =>
    intro before line after reason hlines hbefore hmalformed
    exact parse_of_malformed hlines hbefore hmalformed
  case accepted =>
    intro s hparse
    have hentries := entries_of_parse hparse
    refine ⟨?value, ?absent, ?frame, ?shape⟩
    case value =>
      intro key value
      rw [hentries]
      exact get?_filterMap_eq_some_iff htrim
    case absent =>
      intro key
      rw [hentries]
      exact get?_filterMap_eq_none_iff htrim
    case frame =>
      intro content' s' hparse' hvisible
      rw [hentries, entries_of_parse hparse', hvisible]
    case shape =>
      intro key value hvalue
      exact isKey_of_get? hparse hvalue

end Files

end Infill.Settings
