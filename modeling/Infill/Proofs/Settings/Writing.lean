import Infill.Proofs.Placeholder.Spelling
import Infill.Settings

/-!
# Writing settings

A key-value file can be written in many ways: with quotes or without them, with either delimiter,
with white space around its lines and comments among them.  Each of them is read back to the pairs
that have been written, and of several pairs with one key the last counts (`parse_fileText`).
-/

namespace Infill.Settings

/-- The characters that a value can be quoted with. -/
def quotes : List Char := ['"', '\'', '`']

/-- A key that can be written in a line. -/
structure IsKey (key : Text) : Prop where
  name : IsName ['=', ':', '\n'] key
  noMark : ∀ c ∈ key.head?, isCommentMark c = false

/-- White space in a line. -/
def IsGap (gap : Text) : Prop := ∀ c ∈ gap, Text.isBlank c ∧ c ≠ '\n'

/-- What stands behind a value in quotes.  A bracket at the end of the line would make it a header if
the key starts with one. -/
inductive Trailer (key : Text) : Text → Prop
  | nothing : Trailer key []
  | comment {gap comment : Text} {mark : Char} (blank : IsGap gap) (isMark : isCommentMark mark)
      (oneLine : '\n' ∉ comment) (noBracket : key.head? = some '[' → ']' ∉ comment) :
      Trailer key (gap ++ mark :: comment)

/-- The ways to write the value of a key. -/
inductive ValueText (key value : Text) : Text → Prop
  | quoted {q : Char} {trailer : Text} (quote : q ∈ quotes) (noQuote : q ∉ value)
      (behind : Trailer key trailer) : ValueText key value (q :: value ++ q :: trailer)
  | bare (trimmed : Text.trim value = value) (noMark : ∀ c ∈ value, isCommentMark c = false)
      (noQuote : ∀ c ∈ value.head?, c ∉ quotes) (noBracket : key.head? ≠ some '[') :
      ValueText key value value

/-- The ways to write a key and its value in a line. -/
inductive EntryText (key value : Text) : Text → Prop
  | intro {before after written : Text} {delimiter : Char} (blankBefore : IsGap before)
      (blankAfter : IsGap after) (isKey : IsKey key) (oneLine : '\n' ∉ value)
      (delimits : isDelimiter delimiter) (writes : ValueText key value written) :
      EntryText key value (before ++ (key ++ delimiter :: written) ++ after)

/-- Lines without an entry. -/
inductive SkippedText : Text → Prop
  | blank {gap : Text} (blank : IsGap gap) : SkippedText gap
  | comment {gap comment : Text} {mark : Char} (blank : IsGap gap) (isMark : isCommentMark mark)
      (oneLine : '\n' ∉ comment) : SkippedText (gap ++ mark :: comment)

/-- The ways to end a line. -/
inductive LineEnd : Text → Prop
  | feed : LineEnd ['\n']
  | returnFeed : LineEnd ['\r', '\n']

/-- The ways to write pairs in a file. -/
inductive FileText : List (Text × Text) → Text → Prop
  | nil : FileText [] []
  | skipped {pairs : List (Text × Text)} {line ending rest : Text} (skipped : SkippedText line)
      (ends : LineEnd ending) (more : FileText pairs rest) : FileText pairs (line ++ ending ++ rest)
  | entry {pairs : List (Text × Text)} {key value line ending rest : Text}
      (entry : EntryText key value line) (ends : LineEnd ending) (more : FileText pairs rest) :
      FileText ((key, value) :: pairs) (line ++ ending ++ rest)

section Values

variable {key value written : Text}

theorem IsGap.blank {gap : Text} (h : IsGap gap) : ∀ c ∈ gap, Text.isBlank c :=
  fun c hc => (h c hc).1

theorem IsGap.oneLine {gap : Text} (h : IsGap gap) : '\n' ∉ gap := fun hmem => (h _ hmem).2 rfl

theorem not_blank_of_isCommentMark {c : Char} (h : isCommentMark c) : Text.isBlank c = false := by
  simp only [isCommentMark, Bool.or_eq_true, beq_iff_eq] at h
  rcases h with rfl | rfl <;> decide

theorem not_blank_of_isDelimiter {c : Char} (h : isDelimiter c) : Text.isBlank c = false := by
  simp only [isDelimiter, Bool.or_eq_true, beq_iff_eq] at h
  rcases h with rfl | rfl <;> decide

theorem not_blank_of_quote {c : Char} (h : c ∈ quotes) : Text.isBlank c = false := by
  simp only [quotes, List.mem_cons, List.not_mem_nil, or_false] at h
  rcases h with rfl | rfl | rfl <;> decide

theorem unquote?_quoted {q : Char} (hq : q ∉ value) (rest : Text) :
    unquote? q (q :: value ++ q :: rest) = some value := by
  have hvalue : ∀ c ∈ value, (c == q) = false := by
    intro c hc
    rw [beq_eq_false_iff_ne]
    exact ne_of_mem_of_not_mem hc hq
  rw [List.cons_append, unquote?, if_pos rfl, cutAt?_append hvalue (beq_self_eq_true q)]
  rfl

theorem unquote?_of_head_ne {q : Char} {raw : Text} (h : raw.head? ≠ some q) :
    unquote? q raw = none := by
  cases raw with
  | nil => rfl
  | cons c raw =>
    have hne : c ≠ q := by simpa using h
    rw [unquote?, if_neg hne]

/-- A value in quotes reaches to the closing quote. -/
theorem valueOf_quoted {q : Char} (hquote : q ∈ quotes) (hq : q ∉ value) (rest : Text) :
    valueOf (q :: value ++ q :: rest) = value := by
  have hhead : ∀ q', q ≠ q' → unquote? q' (q :: value ++ q :: rest) = none := fun q' hne =>
    unquote?_of_head_ne (by simpa using hne)
  have hquoted := unquote?_quoted hq rest
  have hfound : (unquote? '"' (q :: value ++ q :: rest)).or
      ((unquote? '\'' (q :: value ++ q :: rest)).or (unquote? '`' (q :: value ++ q :: rest))) =
        some value := by
    simp only [quotes, List.mem_cons, List.not_mem_nil, or_false] at hquote
    rcases hquote with rfl | rfl | rfl
    · rw [hquoted, Option.some_or]
    · rw [hhead _ (by decide), hquoted, Option.none_or, Option.some_or]
    · rw [hhead _ (by decide), hhead _ (by decide), hquoted, Option.none_or, Option.none_or]
  rw [valueOf, hfound]

theorem valueOf_bare (hmark : ∀ c ∈ value, isCommentMark c = false)
    (hquote : ∀ c ∈ value.head?, c ∉ quotes) : valueOf value = value := by
  have hhead : ∀ q ∈ quotes, unquote? q value = none := fun q hq =>
    unquote?_of_head_ne fun heq => hquote q heq hq
  have hnone : (unquote? '"' value).or ((unquote? '\'' value).or (unquote? '`' value)) = none := by
    rw [hhead _ (by simp [quotes]), hhead _ (by simp [quotes]), hhead _ (by simp [quotes])]
    rfl
  rw [valueOf, hnone]
  simp only [cutAt?_eq_none_iff.mpr hmark]

end Values

section Lines

variable {key value written line : Text}

theorem readLine_congr {raw raw' : Text} (h : Text.trim raw = Text.trim raw') :
    readLine raw = readLine raw' := by
  simp only [readLine, h]

theorem Trailer.not_mem_bracket {trailer : Text} (h : Trailer key trailer)
    (hkey : key.head? = some '[') : ']' ∉ trailer := by
  cases h with
  | nothing => exact List.not_mem_nil
  | comment blank isMark oneLine noBracket =>
    intro hmem
    rcases List.mem_append.mp hmem with hmem | hmem
    · exact absurd (blank _ hmem).1 (by decide)
    · rcases List.mem_cons.mp hmem with rfl | hmem
      · exact absurd isMark (by decide)
      · exact noBracket hkey hmem

/-- A line with an entry does not end like a header if it starts like one. -/
theorem ValueText.getLast?_ne_bracket (h : ValueText key value written)
    (hkey : key.head? = some '[') (front : Text) :
    (front ++ Text.trimEnd written).getLast? ≠ some ']' := by
  cases h with
  | bare trimmed noMark noQuote noBracket => exact absurd hkey noBracket
  | @quoted q trailer quote noQuote behind =>
    -- The closing quote stays, so the line ends with it or with the end of what stands behind it.
    have hend : front ++ Text.trimEnd (q :: value ++ q :: trailer) =
        (front ++ q :: value) ++ q :: Text.trimEnd trailer := by
      rw [Text.trimEnd_append_cons_of_not_blank (not_blank_of_quote quote), List.append_assoc]
    rw [hend, List.getLast?_append_of_ne_nil _ (List.cons_ne_nil _ _)]
    intro hlast
    rcases List.mem_cons.mp (List.mem_of_getLast? hlast) with rfl | hmem
    · exact absurd quote (by decide)
    · exact behind.not_mem_bracket hkey (Text.mem_of_mem_trimEnd hmem)

theorem ValueText.valueOf_trim (h : ValueText key value written) :
    valueOf (Text.trim written) = value := by
  cases h with
  | bare trimmed noMark noQuote noBracket => rw [trimmed, valueOf_bare noMark noQuote]
  | @quoted q trailer quote noQuote behind =>
    have hq := not_blank_of_quote quote
    rw [List.cons_append, Text.trim_cons_of_not_blank hq, Text.trimEnd_append_cons_of_not_blank hq,
      ← List.cons_append, valueOf_quoted quote noQuote]

/-- A line is an entry if it is no comment and no header, and a key stands in front of its first
delimiter. -/
theorem readLine_of_cut {raw before after : Text} {c : Char} (htrim : Text.trim raw = line)
    (hfirst : line.head? = some c) (hmark : isCommentMark c = false)
    (hheader : c = '[' → line.getLast? ≠ some ']')
    (hcut : cutAt? isDelimiter line = some (before, after)) (hkey : Text.trim before ≠ []) :
    readLine raw = .entry (Text.trim before) (valueOf (Text.trim after)) := by
  obtain ⟨rest, rfl⟩ := List.head?_eq_some_iff.mp hfirst
  have hbracket : (c == '[' && (c :: rest).getLast? == some ']') = false := by
    rw [Bool.and_eq_false_imp]
    intro hc
    simpa using hheader (by simpa using hc)
  simp only [readLine, htrim, hmark, hbracket, hcut, hkey, Bool.false_eq_true, if_false]

/-- A line is read as the entry that it has been written for. -/
theorem EntryText.readLine_eq (h : EntryText key value line) : readLine line = .entry key value := by
  obtain ⟨blankBefore, blankAfter, isKey, oneLine, delimits, writes⟩ := h
  next before after written delimiter =>
  obtain ⟨c, rest, hkey⟩ := List.exists_cons_of_ne_nil isKey.name.ne_nil
  have hc : Text.isBlank c = false := Text.not_blank_of_trimmed (hkey ▸ isKey.name.trimmed)
  have htrim : Text.trim (before ++ (key ++ delimiter :: written) ++ after) =
      key ++ delimiter :: Text.trimEnd written := by
    rw [Text.trim_padded blankBefore.blank blankAfter.blank, Text.trim, hkey, List.cons_append,
      Text.trimStart_cons_of_not_blank hc, ← List.cons_append,
      Text.trimEnd_append_cons_of_not_blank (not_blank_of_isDelimiter delimits)]
  have hheader : c = '[' → (key ++ delimiter :: Text.trimEnd written).getLast? ≠ some ']' := by
    intro hbracket
    have hlast := writes.getLast?_ne_bracket (by rw [hkey, hbracket]; rfl) (key ++ [delimiter])
    rwa [List.append_assoc, List.singleton_append] at hlast
  have hcut : cutAt? isDelimiter (key ++ delimiter :: Text.trimEnd written) =
      some (key, Text.trimEnd written) := by
    apply cutAt?_append _ delimits
    intro a ha
    have hstop := isKey.name.noStop a ha
    simp only [List.mem_cons, List.not_mem_nil, or_false, not_or] at hstop
    simp [isDelimiter, hstop.1, hstop.2.1]
  have hname : Text.trim key = key := isKey.name.trimmed
  have hentry := readLine_of_cut htrim (by rw [hkey]; rfl) (isKey.noMark c (by rw [hkey]; rfl))
    hheader hcut (by rw [hname]; exact isKey.name.ne_nil)
  rw [hentry, hname, Text.trim_trimEnd, writes.valueOf_trim]

theorem SkippedText.readLine_eq (h : SkippedText line) : readLine line = .skipped := by
  cases h with
  | blank blank => simp only [readLine, Text.trim_eq_nil_iff.mpr blank.blank]
  | @comment gap comment mark blank isMark oneLine =>
    have hmark := not_blank_of_isCommentMark isMark
    have htrim : Text.trim (gap ++ mark :: comment) = mark :: Text.trimEnd comment := by
      rw [Text.trim, Text.trimStart_append_of_blank blank.blank,
        Text.trimStart_cons_of_not_blank hmark, Text.trimEnd_cons_of_not_blank hmark]
    simp only [readLine, htrim, isMark, if_true]

theorem SkippedText.oneLine (h : SkippedText line) : '\n' ∉ line := by
  cases h with
  | blank blank => exact blank.oneLine
  | comment blank isMark oneLine =>
    simp only [List.mem_append, List.mem_cons, not_or]
    refine ⟨blank.oneLine, ?_, oneLine⟩
    rintro rfl
    exact absurd isMark (by decide)

theorem Trailer.oneLine {trailer : Text} (h : Trailer key trailer) : '\n' ∉ trailer := by
  cases h with
  | nothing => exact List.not_mem_nil
  | comment blank isMark oneLine _ => exact (SkippedText.comment blank isMark oneLine).oneLine

theorem ValueText.oneLine (h : ValueText key value written) (hvalue : '\n' ∉ value) :
    '\n' ∉ written := by
  cases h with
  | bare => exact hvalue
  | @quoted q trailer quote noQuote behind =>
    have hq : '\n' ≠ q := by
      rintro rfl
      exact absurd quote (by decide)
    simp only [List.cons_append, List.mem_cons, List.mem_append, not_or]
    exact ⟨hq, hvalue, hq, behind.oneLine⟩

theorem EntryText.oneLine (h : EntryText key value line) : '\n' ∉ line := by
  obtain ⟨blankBefore, blankAfter, isKey, oneLine, delimits, writes⟩ := h
  next before after written delimiter =>
  have hdelimiter : '\n' ≠ delimiter := by
    rintro rfl
    exact absurd delimits (by decide)
  have hkey : '\n' ∉ key := fun hmem => isKey.name.noStop _ hmem (by simp)
  simp only [List.mem_append, List.mem_cons, not_or]
  exact ⟨⟨blankBefore.oneLine, hkey, hdelimiter, writes.oneLine oneLine⟩, blankAfter.oneLine⟩

end Lines

section Files

variable {pairs : List (Text × Text)} {content : Text}

/-- What a line is read as does not depend on how it has been ended. -/
theorem LineEnd.lines_append {line ending : Text} (h : LineEnd ending) (hline : '\n' ∉ line)
    (rest : Text) : ∃ raw, Text.lines (line ++ ending ++ rest) = raw :: Text.lines rest ∧
      readLine raw = readLine line := by
  cases h with
  | feed =>
    refine ⟨Text.dropReturn line, ?_, readLine_congr (Text.trim_dropReturn line)⟩
    rw [List.append_assoc, List.singleton_append, Text.lines_append_feed hline]
  | returnFeed =>
    have hreturn : '\n' ∉ line ++ ['\r'] := by simp [hline]
    have hlist : line ++ ['\r', '\n'] ++ rest = (line ++ ['\r']) ++ '\n' :: rest := by simp
    have htrim : Text.trim (line ++ ['\r']) = Text.trim line :=
      Text.trim_padded (fun c hc => absurd hc List.not_mem_nil)
        (List.forall_mem_singleton.mpr rfl) line
    refine ⟨Text.dropReturn (line ++ ['\r']), ?_,
      readLine_congr ((Text.trim_dropReturn _).trans htrim)⟩
    rw [hlist, Text.lines_append_feed hreturn]

/-- The pairs are read one after the other. -/
theorem readLines_fileText (h : FileText pairs content) (n : Nat) :
    readLines n true (Text.lines content) = .ok pairs := by
  induction h generalizing n with
  | nil => rfl
  | skipped skipped ends _ ih =>
    obtain ⟨raw, hlines, hraw⟩ := ends.lines_append skipped.oneLine _
    rw [hlines, readLines, hraw, skipped.readLine_eq]
    exact ih (n + 1)
  | entry entry ends _ ih =>
    obtain ⟨raw, hlines, hraw⟩ := ends.lines_append entry.oneLine _
    rw [hlines, readLines, hraw, entry.readLine_eq]
    simp only [ih (n + 1), if_true]

/-- Of several pairs with one key the last counts. -/
theorem get?_last {before after : List (Text × Text)} {key : Text} (value : Text)
    (h : ∀ pair ∈ after, pair.1 ≠ key) :
    ({ entries := before ++ (key, value) :: after } : Settings).get? key = some value := by
  have hnone : after.reverse.find? (fun pair => pair.1 == key) = none := by
    rw [List.find?_eq_none]
    intro pair hpair
    simpa using h pair (List.mem_reverse.mp hpair)
  simp [get?, List.find?_append, hnone]

theorem get?_absent {key : Text} (h : ∀ pair ∈ pairs, pair.1 ≠ key) :
    ({ entries := pairs } : Settings).get? key = none := by
  have hnone : pairs.reverse.find? (fun pair => pair.1 == key) = none := by
    rw [List.find?_eq_none]
    intro pair hpair
    simpa using h pair (List.mem_reverse.mp hpair)
  simp [get?, hnone]

/-- Pairs that have been written to a file are read back from it. -/
theorem parse_fileText (h : FileText pairs content) :
    ∃ s, parse content = .ok s ∧
      (∀ before key value after, pairs = before ++ (key, value) :: after →
        (∀ pair ∈ after, pair.1 ≠ key) → s.get? key = some value) ∧
      ∀ key, (∀ pair ∈ pairs, pair.1 ≠ key) → s.get? key = none := by
  refine ⟨{ entries := pairs }, by rw [parse, readLines_fileText h], ?_, fun key => get?_absent⟩
  rintro before key value after rfl hlast
  exact get?_last value hlast

/-- Quotes, brackets, comments and both ways to end a line in one file. -/
theorem parse_fileText_mixed :
    FileText [("[k".toList, "a]#".toList), ("K".toList, "=".toList), ("K".toList, "z".toList)]
        "; note\n\n [k=\"a]#\" ;x\r\nK:`=`\nK=z\n".toList ∧
      ∃ s, parse "; note\n\n [k=\"a]#\" ;x\r\nK:`=`\nK=z\n".toList = .ok s ∧
        s.get? "[k".toList = some "a]#".toList ∧ s.get? "K".toList = some "z".toList ∧
        s.get? "k".toList = none := by
  have hname : IsKey "[k".toList := ⟨⟨by decide, by decide, by simp⟩, by simp [isCommentMark]⟩
  have hname' : IsKey "K".toList := ⟨⟨by decide, by decide, by simp⟩, by simp [isCommentMark]⟩
  have hnote : SkippedText "; note".toList :=
    @SkippedText.comment [] " note".toList ';' (by simp [IsGap]) (by decide) (by decide)
  have hblank : SkippedText [] := .blank (by simp [IsGap])
  have hbehind : Trailer "[k".toList " ;x".toList :=
    @Trailer.comment _ [' '] "x".toList ';' (by simp [IsGap]; decide) (by decide) (by decide)
      (fun _ => by decide)
  have hfirst : EntryText "[k".toList "a]#".toList " [k=\"a]#\" ;x".toList :=
    @EntryText.intro _ _ [' '] [] _ '=' (by simp [IsGap]; decide) (by simp [IsGap]) hname (by decide)
      (by decide) (@ValueText.quoted _ "a]#".toList '"' _ (by decide) (by decide) hbehind)
  have hsecond : EntryText "K".toList "=".toList "K:`=`".toList :=
    @EntryText.intro _ _ [] [] _ ':' (by simp [IsGap]) (by simp [IsGap]) hname' (by decide)
      (by decide) (@ValueText.quoted _ "=".toList '`' [] (by decide) (by decide) .nothing)
  have hthird : EntryText "K".toList "z".toList "K=z".toList :=
    @EntryText.intro _ _ [] [] _ '=' (by simp [IsGap]) (by simp [IsGap]) hname' (by decide)
      (by decide) (.bare (by decide) (by simp [isCommentMark]) (by simp [quotes]) (by decide))
  have hfile : FileText
      [("[k".toList, "a]#".toList), ("K".toList, "=".toList), ("K".toList, "z".toList)]
      "; note\n\n [k=\"a]#\" ;x\r\nK:`=`\nK=z\n".toList :=
    .skipped hnote .feed (.skipped hblank .feed (.entry hfirst .returnFeed
      (.entry hsecond .feed (.entry hthird .feed .nil))))
  obtain ⟨s, hparse, hlast, habsent⟩ := parse_fileText hfile
  exact ⟨hfile, s, hparse, hlast [] _ _ _ rfl (by decide), hlast (_ :: [_]) _ _ [] rfl (by simp),
    habsent _ (by decide)⟩

end Files

end Infill.Settings
