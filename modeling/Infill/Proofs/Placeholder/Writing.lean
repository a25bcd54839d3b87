import Infill.Placeholder
import Infill.Proofs.Shape

/-!
# How placeholders are written

`Written` says what the text of a placeholder looks like, without saying how it is found.  A text
starts with a placeholder exactly if it starts with the text of one (`opens?_eq_some_iff`), which
names what `Written` says; so the way a shape is read never shows.
-/

namespace Infill

/-- What the text between the keyword and the modifiers of a placeholder names.  A path ends at the
first `@`. -/
inductive Names : Text → Target → Prop
  | secret {before after : Text} (noAt : '@' ∉ before) (path : Text.trim before ≠ [])
      (key : Text.trim after ≠ []) :
      Names (before ++ '@' :: after) (.secret (Text.trim before) (Text.trim after))
  | setting {head : Text} (key : Text.trim head ≠ []) : Names head (.setting (Text.trim head))

/-- The text of a placeholder of a dialect that names `target` and has these modifiers: the
modifiers reach from the first `|` to the closing brace. -/
inductive Written (d : Dialect) : Text → Target → Text → Prop
  | intro {gap head modifiers : Text} {target : Target} (blank : ∀ c ∈ gap, Text.isBlank c)
      (noBrace : '}' ∉ head ++ modifiers) (noBar : '|' ∉ head)
      (bar : modifiers = [] ∨ ∃ more, modifiers = '|' :: more) (names : Names head target)
      (dialect : target.dialect = d) :
      Written d (['$', '{'] ++ gap ++ d.keyword ++ head ++ modifiers ++ ['}']) target modifiers

/-- A placeholder starts with `$`. -/
theorem Written.exists_cons {d : Dialect} {text modifiers : Text} {target : Target}
    (h : Written d text target modifiers) : ∃ more, text = '$' :: more := by
  cases h
  exact ⟨_, rfl⟩

theorem Written.ne_nil {d : Dialect} {text modifiers : Text} {target : Target}
    (h : Written d text target modifiers) : text ≠ [] := by
  obtain ⟨more, rfl⟩ := h.exists_cons
  exact List.cons_ne_nil _ _

theorem Written.dialect_target {d : Dialect} {text modifiers : Text} {target : Target}
    (h : Written d text target modifiers) : target.dialect = d := by
  cases h
  assumption

namespace Dialect

/-- What stands behind the keyword of a placeholder. -/
def afterKeyword? (d : Dialect) (t : Text) : Option Text :=
  (afterLead? ['$', '{'] t).bind fun inner => afterLead? d.keyword (Text.trimStart inner)

theorem exists_keyword_eq_cons (d : Dialect) :
    ∃ c word, d.keyword = c :: word ∧ Text.isBlank c = false := by
  cases d with
  | secret => exact ⟨'s', "ecret:".toList, rfl, by decide⟩
  | reference => exact ⟨'r', "ef:".toList, rfl, by decide⟩

theorem afterLead?_keyword_of_blank (d : Dialect) {c : Char} (hc : Text.isBlank c) (rest : Text) :
    afterLead? d.keyword (c :: rest) = none := by
  obtain ⟨b, word, hword, hb⟩ := d.exists_keyword_eq_cons
  have hne : b ≠ c := by
    rintro rfl
    simp [hc] at hb
  rw [hword, afterLead?, if_neg hne]

theorem trimStart_keyword (d : Dialect) {gap : Text} (hgap : ∀ c ∈ gap, Text.isBlank c)
    (t : Text) : Text.trimStart (gap ++ (d.keyword ++ t)) = d.keyword ++ t := by
  obtain ⟨b, word, hword, hb⟩ := d.exists_keyword_eq_cons
  rw [Text.trimStart_append_of_blank hgap, hword, List.cons_append,
    Text.trimStart_cons_of_not_blank hb]

theorem afterKeyword?_eq_some_iff {d : Dialect} {t rest : Text} :
    d.afterKeyword? t = some rest ↔
      ∃ gap, (∀ c ∈ gap, Text.isBlank c) ∧ t = ['$', '{'] ++ gap ++ d.keyword ++ rest := by
  constructor
  · intro h
    obtain ⟨inner, hinner, hrest⟩ := Option.bind_eq_some_iff.mp h
    rw [afterLead?_eq_some_iff] at hinner hrest
    refine ⟨inner.takeWhile Text.isBlank, fun c hc => List.mem_takeWhile_imp hc, ?_⟩
    rw [List.append_assoc, ← hrest, hinner, List.append_assoc, Text.trimStart,
      List.takeWhile_append_dropWhile]
  · rintro ⟨gap, hgap, rfl⟩
    rw [List.append_assoc, List.append_assoc, afterKeyword?, afterLead?_append, Option.bind_some,
      trimStart_keyword d hgap, afterLead?_append]

/-- Reading a placeholder begins with its keyword. -/
theorem match?_shape (d : Dialect) (t : Text) :
    d.shape.match? t =
      (d.afterKeyword? t).bind
        (d.body.read ((Shape.word ['}']).read fun rest => some { rest })) := by
  have hblank : ∀ (next : Text → Option Reading) (c : Char) (rest : Text), Text.isBlank c →
      (Shape.word d.keyword).read next (c :: rest) = none := by
    intro next c rest hc
    rw [Shape.read_word, afterLead?_keyword_of_blank d hc, Option.bind_none]
  rw [Shape.match?, shape, Shape.read_inOrder_cons, Shape.read_word, afterKeyword?,
    Option.bind_assoc]
  congr 1
  funext inner
  rw [Shape.read_inOrder_cons, Shape.read_inOrder_cons, Shape.read_blanks (hblank _),
    Shape.read_word]
  simp only [Shape.read_inOrder_cons, Shape.read_inOrder_nil]

/-- Reads the end of a placeholder. -/
abbrev close : Text → Option Reading := (Shape.word ['}']).read fun rest => some { rest }

section Suffix

variable {next : Text → Option Reading}

theorem read_close_of_outside {c : Char} (hc : Shape.outside ['}'] c) (t : Text) :
    (Shape.word ['}']).read next (c :: t) = none := by
  have hne : '}' ≠ c := by
    rintro rfl
    simp at hc
  rw [Shape.read_word, afterLead?, if_neg hne, Option.bind_none]

/-- What is read of the modifiers behind their `|`, up to the closing brace. -/
theorem read_more (n : Nat) (t more : Text) :
    (Shape.inOrder [.many (Shape.outside ['}'])]).read
        (fun rest => ((Shape.word ['}']).read next rest).map (Reading.keep n (t.upTo rest))) more =
      ((Shape.word ['}']).read next (more.dropWhile (Shape.outside ['}']))).map
        (Reading.keep n (t.upTo (more.dropWhile (Shape.outside ['}'])))) := by
  rw [Shape.read_inOrder_cons, Shape.read_inOrder_nil, Shape.read, Shape.readMany_eq]
  intro c rest hc
  rw [read_close_of_outside hc, Option.map_none]

/-- Reads modifiers up to the closing brace. -/
theorem read_suffix (n : Nat) {modifiers : Text} (hbrace : '}' ∉ modifiers)
    (hbar : modifiers = [] ∨ ∃ more, modifiers = '|' :: more) (rest : Text) :
    (suffix n).read ((Shape.word ['}']).read next) (modifiers ++ '}' :: rest) =
      if modifiers = [] then next rest else (next rest).map (Reading.keep n modifiers) := by
  rw [suffix, Shape.read_optional, Shape.read_group, Shape.read_inOrder_cons, Shape.read_word]
  rcases hbar with rfl | ⟨more, rfl⟩
  · simp [afterLead?]
  · have hmore : ∀ c ∈ more, Shape.outside ['}'] c :=
      Shape.outside_of_no_stop (by simpa using hbrace)
    have hbegin : afterLead? ['|'] ('|' :: more ++ '}' :: rest) = some (more ++ '}' :: rest) :=
      afterLead?_append ['|'] _
    rw [hbegin, Option.bind_some, read_more, dropWhile_append_stop hmore (by decide),
      Text.upTo_append]
    simp [afterLead?]

/-- Where modifiers and a closing brace can be read, they are there. -/
theorem exists_of_read_suffix {n : Nat} {t : Text} {r : Reading}
    (h : (suffix n).read ((Shape.word ['}']).read next) t = some r) :
    ∃ modifiers rest, t = modifiers ++ '}' :: rest ∧ '}' ∉ modifiers ∧
      (modifiers = [] ∨ ∃ more, modifiers = '|' :: more) := by
  rw [suffix, Shape.read_optional, Shape.read_group, Shape.read_inOrder_cons, Shape.read_word,
    Option.or_eq_some_iff] at h
  rcases h with h | ⟨-, h⟩
  · obtain ⟨more, hmore, hread⟩ := Option.bind_eq_some_iff.mp h
    rw [afterLead?_eq_some_iff] at hmore
    rw [read_more] at hread
    obtain ⟨r', hread, -⟩ := Option.map_eq_some_iff.mp hread
    rw [Shape.read_word] at hread
    obtain ⟨rest, hrest, -⟩ := Option.bind_eq_some_iff.mp hread
    rw [afterLead?_eq_some_iff] at hrest
    refine ⟨'|' :: more.takeWhile (Shape.outside ['}']), rest, ?_, ?_, Or.inr ⟨_, rfl⟩⟩
    · rw [hmore, List.cons_append, List.cons_append, List.nil_append]
      congr 1
      conv_lhs => rw [← List.takeWhile_append_dropWhile (l := more), hrest]
      rfl
    · intro hmem
      rcases List.mem_cons.mp hmem with h | h
      · exact absurd h (by decide)
      · simpa using List.mem_takeWhile_imp h
  · rw [Shape.read_word] at h
    obtain ⟨rest, hrest, -⟩ := Option.bind_eq_some_iff.mp h
    rw [afterLead?_eq_some_iff] at hrest
    exact ⟨[], rest, hrest, List.not_mem_nil, Or.inl rfl⟩

/-- The name at the end of a placeholder, with the modifiers behind it. -/
def lastName (n m : Nat) : Shape := .inOrder [.blanks, .name n ['}', '|'], .blanks, suffix m]

theorem read_lastName (n m : Nat) (t : Text) :
    (lastName n m).read ((Shape.word ['}']).read next) t =
      if Text.trim (t.takeWhile (Shape.outside ['}', '|'])) = [] then none
      else ((suffix m).read ((Shape.word ['}']).read next)
          (t.dropWhile (Shape.outside ['}', '|']))).map
        (Reading.keep n (Text.trim (t.takeWhile (Shape.outside ['}', '|'])))) := by
  simp only [lastName, Shape.read_inOrder_cons, Shape.read_inOrder_nil]
  apply Shape.read_padded_name
  · simp [Text.isBlank]
  · intro c rest hc
    by_contra hread
    obtain ⟨r, hr⟩ := Option.ne_none_iff_exists'.mp hread
    obtain ⟨modifiers, rest', htext, -, rfl | ⟨more, rfl⟩⟩ := exists_of_read_suffix hr
    · simp_all
    · simp_all

/-- A name with modifiers behind it is read without the white space around it. -/
theorem read_lastName_written {n m : Nat} (hnm : n ≠ m) {part modifiers : Text}
    (hpart : Text.trim part ≠ []) (hbrace : '}' ∉ part ++ modifiers) (hbarPart : '|' ∉ part)
    (hbar : modifiers = [] ∨ ∃ more, modifiers = '|' :: more) (rest : Text) :
    ∃ r, (lastName n m).read close (part ++ modifiers ++ '}' :: rest) = some r ∧ r.rest = rest ∧
      r.group n = Text.trim part ∧ r.group m = modifiers := by
  obtain ⟨hbracePart, hbraceMod⟩ : '}' ∉ part ∧ '}' ∉ modifiers := by simpa using hbrace
  have hpass : ∀ c ∈ part, Shape.outside ['}', '|'] c :=
    Shape.outside_of_no_stop (by simp [hbracePart, hbarPart])
  obtain ⟨b, tail, hb, hstop⟩ : ∃ b tail, modifiers ++ '}' :: rest = b :: tail ∧
      Shape.outside ['}', '|'] b = false := by
    rcases hbar with rfl | ⟨more, rfl⟩
    · exact ⟨'}', rest, rfl, by decide⟩
    · exact ⟨'|', more ++ '}' :: rest, rfl, by decide⟩
  rw [read_lastName, List.append_assoc, hb, takeWhile_append_stop hpass hstop,
    dropWhile_append_stop hpass hstop, if_neg hpart, ← hb, read_suffix m hbraceMod hbar]
  by_cases hmod : modifiers = []
  · refine ⟨_, by rw [if_pos hmod, Option.map_some], rfl, ?_, ?_⟩ <;>
      simp [Reading.group_keep, hmod, Ne.symm hnm]
  · refine ⟨_, by rw [if_neg hmod, Option.map_some, Option.map_some], rfl, ?_, ?_⟩ <;>
      simp [Reading.group_keep, Ne.symm hnm]

theorem exists_of_read_lastName {n m : Nat} {t : Text} {r : Reading}
    (h : (lastName n m).read ((Shape.word ['}']).read next) t = some r) :
    ∃ part modifiers rest, t = part ++ modifiers ++ '}' :: rest ∧ Text.trim part ≠ [] ∧
      '}' ∉ part ++ modifiers ∧ '|' ∉ part ∧
      (modifiers = [] ∨ ∃ more, modifiers = '|' :: more) := by
  rw [read_lastName] at h
  split at h
  · contradiction
  · next hpart =>
    obtain ⟨r', hr', -⟩ := Option.map_eq_some_iff.mp h
    obtain ⟨modifiers, rest, htext, hbrace, hbar⟩ := exists_of_read_suffix hr'
    have hpass : ∀ c ∈ t.takeWhile (Shape.outside ['}', '|']), c ∉ ['}', '|'] :=
      fun c hc => Shape.outside_iff.mp (List.mem_takeWhile_imp hc)
    refine ⟨t.takeWhile (Shape.outside ['}', '|']), modifiers, rest, ?_, hpart, ?_, ?_, hbar⟩
    · rw [List.append_assoc, ← htext, List.takeWhile_append_dropWhile]
    · intro hmem
      rcases List.mem_append.mp hmem with hmem | hmem
      · exact hpass _ hmem (by decide)
      · exact hbrace hmem
    · exact fun hmem => hpass _ hmem (by decide)

end Suffix

theorem body_secret :
    (Dialect.body .secret).read close =
      Shape.blanks.read ((Shape.name 1 ['@', '}', '|']).read (Shape.blanks.read
        ((Shape.word ['@']).read ((lastName 2 3).read close)))) := by
  simp [body, lastName]

theorem read_at_of_outside {next : Text → Option Reading} {c : Char}
    (hc : c ∉ ['@', '}', '|']) (t : Text) : (Shape.word ['@']).read next (c :: t) = none := by
  have hne : '@' ≠ c := by
    rintro rfl
    simp at hc
  rw [Shape.read_word, afterLead?, if_neg hne, Option.bind_none]

/-- Reads what the text of a placeholder holds behind the keyword. -/
theorem read_body_written {d : Dialect} {head modifiers : Text} {target : Target}
    (noBrace : '}' ∉ head ++ modifiers) (noBar : '|' ∉ head)
    (bar : modifiers = [] ∨ ∃ more, modifiers = '|' :: more) (names : Names head target)
    (dialect : target.dialect = d) (rest : Text) :
    ∃ r, d.body.read close (head ++ modifiers ++ '}' :: rest) = some r ∧ r.rest = rest ∧
      d.target r = target ∧ d.modifiers r = modifiers := by
  subst dialect
  cases names with
  | setting key =>
    obtain ⟨r, hread, hrest, hname, hmod⟩ :=
      read_lastName_written (by decide : 1 ≠ 2) key noBrace noBar bar rest
    exact ⟨r, hread, hrest, congrArg Target.setting hname, hmod⟩
  | @secret before after noAt path key =>
    have noBraceBefore : '}' ∉ before := fun h => noBrace (by simp [h])
    have noBarBefore : '|' ∉ before := fun h => noBar (by simp [h])
    have hpass : ∀ c ∈ before, Shape.outside ['@', '}', '|'] c :=
      Shape.outside_of_no_stop (by simp [noAt, noBraceBefore, noBarBefore])
    have noBraceAfter : '}' ∉ after ++ modifiers := by
      intro h
      rw [List.append_assoc] at noBrace
      exact noBrace (List.mem_append_right _ (List.mem_cons_of_mem _ h))
    obtain ⟨r, hread, hrest, hname, hmod⟩ :=
      read_lastName_written (by decide : 2 ≠ 3) key noBraceAfter (fun h => noBar (by simp [h])) bar
        rest
    refine ⟨r.keep 1 (Text.trim before), ?_, hrest, ?_, ?_⟩
    · have htext : before ++ '@' :: after ++ modifiers ++ '}' :: rest =
          before ++ '@' :: (after ++ modifiers ++ '}' :: rest) := by simp
      rw [Target.dialect, body_secret, Shape.read_padded_name (by simp [Text.isBlank])
          (fun c t hc => read_at_of_outside hc t), htext, takeWhile_append_stop hpass (by decide),
        dropWhile_append_stop hpass (by decide), if_neg path, Shape.read_word]
      have hat : afterLead? ['@'] ('@' :: (after ++ modifiers ++ '}' :: rest)) =
          some (after ++ modifiers ++ '}' :: rest) := afterLead?_append ['@'] _
      rw [hat, Option.bind_some, hread, Option.map_some]
    · simp [target, Target.dialect, Reading.group_keep, hname]
    · simp [Dialect.modifiers, Target.dialect, Reading.group_keep, hmod]

theorem exists_of_read_body {d : Dialect} {t : Text} {r : Reading}
    (h : d.body.read close t = some r) :
    ∃ head modifiers rest target, t = head ++ modifiers ++ '}' :: rest ∧
      '}' ∉ head ++ modifiers ∧ '|' ∉ head ∧
      (modifiers = [] ∨ ∃ more, modifiers = '|' :: more) ∧ Names head target ∧
      target.dialect = d := by
  cases d with
  | reference =>
    obtain ⟨part, modifiers, rest, htext, hpart, hbrace, hbarPart, hbar⟩ :=
      exists_of_read_lastName (n := 1) (m := 2) h
    exact ⟨part, modifiers, rest, .setting (Text.trim part), htext, hbrace, hbarPart, hbar,
      .setting hpart, rfl⟩
  | secret =>
    rw [body_secret, Shape.read_padded_name (by simp [Text.isBlank])
      (fun c t hc => read_at_of_outside hc t)] at h
    split at h
    · contradiction
    · next hpath =>
      obtain ⟨r', hr', -⟩ := Option.map_eq_some_iff.mp h
      rw [Shape.read_word] at hr'
      obtain ⟨tail, htail, hlast⟩ := Option.bind_eq_some_iff.mp hr'
      rw [afterLead?_eq_some_iff] at htail
      obtain ⟨part, modifiers, rest, rfl, hpart, hbrace, hbarPart, hbar⟩ :=
        exists_of_read_lastName hlast
      have hpass : ∀ c ∈ t.takeWhile (Shape.outside ['@', '}', '|']), c ∉ ['@', '}', '|'] :=
        fun c hc => Shape.outside_iff.mp (List.mem_takeWhile_imp hc)
      refine ⟨t.takeWhile (Shape.outside ['@', '}', '|']) ++ '@' :: part, modifiers, rest, _, ?_,
        ?_, ?_, hbar, .secret ?_ hpath hpart, rfl⟩
      · conv_lhs => rw [← List.takeWhile_append_dropWhile (l := t), htail]
        simp
      · intro hmem
        simp only [List.append_assoc, List.cons_append, List.mem_append, List.mem_cons] at hmem
        rcases hmem with hmem | hmem | hmem
        · exact hpass _ hmem (by decide)
        · exact absurd hmem (by decide)
        · exact hbrace (List.mem_append.mpr hmem)
      · intro hmem
        simp only [List.mem_append, List.mem_cons] at hmem
        rcases hmem with hmem | hmem | hmem
        · exact hpass _ hmem (by decide)
        · exact absurd hmem (by decide)
        · exact hbarPart hmem
      · exact fun hmem => hpass _ hmem (by decide)

/-- A text that starts with the text of a placeholder starts with that placeholder. -/
theorem opens?_written {d : Dialect} {text modifiers : Text} {target : Target}
    (h : Written d text target modifiers) (rest : Text) :
    d.opens? (text ++ rest) = some { target, modifiers, text } := by
  obtain ⟨blank, noBrace, noBar, bar, names, dialect⟩ := h
  rename_i gap head
  obtain ⟨r, hread, hrest, htarget, hmod⟩ := read_body_written noBrace noBar bar names dialect rest
  have hkeyword : d.afterKeyword?
      (['$', '{'] ++ gap ++ d.keyword ++ head ++ modifiers ++ ['}'] ++ rest) =
        some (head ++ modifiers ++ '}' :: rest) :=
    afterKeyword?_eq_some_iff.mpr ⟨gap, blank, by simp⟩
  rw [opens?, match?_shape, hkeyword, Option.bind_some, hread, Option.map_some, hrest, htarget,
    hmod, Text.upTo_append]

/-- A text starts with a placeholder exactly if it starts with the text of one. -/
theorem opens?_eq_some_iff {d : Dialect} {t : Text} {p : Placeholder} :
    d.opens? t = some p ↔
      ∃ rest, t = p.text ++ rest ∧ Written d p.text p.target p.modifiers := by
  constructor
  · intro h
    obtain ⟨r, hr, -⟩ := Option.map_eq_some_iff.mp h
    rw [match?_shape] at hr
    obtain ⟨inner, hinner, hbody⟩ := Option.bind_eq_some_iff.mp hr
    obtain ⟨gap, blank, rfl⟩ := afterKeyword?_eq_some_iff.mp hinner
    obtain ⟨head, modifiers, rest, target, rfl, noBrace, noBar, bar, names, dialect⟩ :=
      exists_of_read_body hbody
    have hwritten := Written.intro blank noBrace noBar bar names dialect
    have htext : ['$', '{'] ++ gap ++ d.keyword ++ (head ++ modifiers ++ '}' :: rest) =
        ['$', '{'] ++ gap ++ d.keyword ++ head ++ modifiers ++ ['}'] ++ rest := by simp
    rw [htext] at h ⊢
    rw [opens?_written hwritten rest, Option.some_inj] at h
    subst h
    exact ⟨rest, rfl, hwritten⟩
  · rintro ⟨rest, rfl, hwritten⟩
    exact opens?_written hwritten rest

end Dialect

end Infill
