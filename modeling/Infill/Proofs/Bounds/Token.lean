import Infill.Proofs.Bounds.Position
import Infill.Proofs.Modifier.Writing

/-!
# The shapes of tokens

The argument of a token is what the group in its shape has been read as (`Argument.matchWhole?_shape`),
and so are the digits of a width (`ParsedModifier.matchWhole?_widthShape`).  Behind the argument there is
nothing to choose: it ends at the first place from which at most one quote and white space lead to the
closing parenthesis.  In front of it there is a choice, between a quote that belongs to the argument
and one that does not, and, if all is white space, of where the argument starts.
-/

namespace Infill

namespace Shape

variable {accepts : Char → Bool} {next : Text → Option Reading}

/-- A repetition that would rather stop goes on over a text behind which it cannot be stopped. -/
theorem readFew_append {gone rest : Text} (hgone : ∀ c ∈ gone, accepts c)
    (hnone : ∀ x y, gone = x ++ y → y ≠ [] → next (y ++ rest) = none) :
    readFew accepts next (gone ++ rest) = readFew accepts next rest := by
  induction gone with
  | nil => rfl
  | cons c gone ih =>
    obtain ⟨hc, hgone⟩ := List.forall_mem_cons.mp hgone
    have hstop := hnone [] (c :: gone) rfl (List.cons_ne_nil _ _)
    rw [List.cons_append] at hstop ⊢
    rw [readFew, hstop, Option.none_or, if_pos hc]
    exact ih hgone fun x y hxy => hnone (c :: x) y (by rw [hxy, List.cons_append])

theorem readFew_of_some {t : Text} {r : Reading} (h : next t = some r) :
    readFew accepts next t = some r := by
  cases t with
  | nil => exact h
  | cons c t => rw [readFew, h, Option.some_or]

/-- A repetition cannot go on over a refused character. -/
theorem readFew_of_refused {gone rest : Text} {c : Char} (hc : c ∈ gone) (hrefused : accepts c = false)
    (hnone : ∀ x y, gone = x ++ y → y ≠ [] → next (y ++ rest) = none) :
    readFew accepts next (gone ++ rest) = none := by
  induction gone with
  | nil => exact absurd hc List.not_mem_nil
  | cons b gone ih =>
    have hstop := hnone [] (b :: gone) rfl (List.cons_ne_nil _ _)
    rw [List.cons_append] at hstop ⊢
    rw [readFew, hstop, Option.none_or]
    split
    · next hb =>
      have hmem : c ∈ gone := by
        rcases List.mem_cons.mp hc with rfl | hmem
        · rw [hrefused] at hb
          contradiction
        · exact hmem
      exact ih hmem fun x y hxy => hnone (b :: x) y (by rw [hxy, List.cons_append])
    · rfl

theorem readMany_cons {c : Char} (hc : accepts c) (t : Text) :
    readMany accepts next (c :: t) = (readMany accepts next t).or (next (c :: t)) := by
  rw [readMany, if_pos hc]

/-- A shape with only one group that a whole text is read as. -/
def alone (t : Text) : Reading := { rest := [], groups := [(1, t)] }

end Shape

namespace Argument

/-- Reads the end of a token. -/
abbrev finish : Text → Option Reading :=
  (Shape.word [')']).read fun rest => if rest = [] then some { rest } else none

/-- Reads what stands behind an argument. -/
abbrev closing : Text → Option Reading :=
  (Shape.optional (.one isQuote)).read (Shape.blanks.read finish)

/-- Reads an argument and what stands behind it. -/
abbrev kept : Text → Option Reading :=
  (Shape.group 1
    (.inOrder [.one (Shape.outside ['\n']), .few (Shape.outside ['\n'])])).read closing

/-- Reads what stands behind the opening parenthesis and the white space after it. -/
abbrev opening : Text → Option Reading := (Shape.optional (.one isQuote)).read kept

/-- A text behind an argument: at most one quote, and white space. -/
def Ends (t : Text) : Prop :=
  (∀ c ∈ t, Text.isBlank c) ∨ ∃ q gap, t = q :: gap ∧ isQuote q ∧ ∀ c ∈ gap, Text.isBlank c

theorem isQuote_of_blank {c : Char} (h : Text.isBlank c) : isQuote c = false := by
  by_contra hquote
  rw [Bool.not_eq_false] at hquote
  simp [not_blank_of_isQuote hquote] at h

section Closing

variable {t : Text}

theorem read_finish_eq (t : Text) : finish t = if t = [')'] then some { rest := [] } else none := by
  rw [finish, Shape.read_word]
  cases t with
  | nil => rfl
  | cons c t =>
    by_cases hc : ')' = c
    · subst hc
      by_cases ht : t = []
      · simp [afterLead?, ht]
      · simp [afterLead?, ht]
    · simp [afterLead?, hc, Ne.symm hc]

theorem blanks_finish_eq (t : Text) :
    Shape.blanks.read finish t = if Text.trimStart t = [')'] then some { rest := [] } else none := by
  rw [Shape.read_blanks, read_finish_eq]
  intro c rest hc
  have hne : c ≠ ')' := by
    rintro rfl
    exact absurd hc (by decide)
  rw [read_finish_eq, if_neg (by simp [hne])]

theorem trimStart_eq_close_iff : Text.trimStart (t ++ [')']) = [')'] ↔ ∀ c ∈ t, Text.isBlank c := by
  constructor
  · intro h
    by_contra hall
    have hne : t.dropWhile Text.isBlank ≠ [] := by rwa [Ne, List.dropWhile_eq_nil_iff]
    rw [Text.trimStart, List.dropWhile_append] at h
    simp only [List.isEmpty_iff, hne, if_false] at h
    exact hne (List.append_left_eq_self.mp h)
  · intro h
    rw [Text.trimStart_append_of_blank h]
    rfl

theorem closing_of_ends (h : Ends t) : closing (t ++ [')']) = some { rest := [] } := by
  rw [closing, Shape.read_optional]
  rcases h with hblank | ⟨q, gap, rfl, hq, hgap⟩
  · rw [blanks_finish_eq, if_pos (trimStart_eq_close_iff.mpr hblank)]
    cases t with
    | nil => rfl
    | cons c t =>
      have hc := isQuote_of_blank (hblank c List.mem_cons_self)
      simp [Shape.read, hc]
  · rw [List.cons_append, Shape.read, if_pos hq, blanks_finish_eq,
      if_pos (trimStart_eq_close_iff.mpr hgap), Option.some_or]

theorem closing_of_not_ends (h : ¬ Ends t) : closing (t ++ [')']) = none := by
  obtain ⟨hblank, hquote⟩ := not_or.mp h
  cases t with
  | nil => exact absurd (List.forall_mem_nil _) hblank
  | cons c t =>
    rw [closing, Shape.read_optional, blanks_finish_eq,
      if_neg (mt trimStart_eq_close_iff.mp hblank), Option.or_none, List.cons_append, Shape.read]
    split
    · next hc =>
      rw [blanks_finish_eq, if_neg]
      exact fun hgap => hquote ⟨c, t, rfl, hc, trimStart_eq_close_iff.mp hgap⟩
    · rfl

end Closing

section Shortest

variable {body gap : Text} {last : Char}

/-- A text that is not all white space has a last character that is not. -/
theorem exists_last_written {t : Text} (h : ¬ ∀ c ∈ t, Text.isBlank c) :
    ∃ body last gap, t = body ++ last :: gap ∧ Text.isBlank last = false ∧
      ∀ c ∈ gap, Text.isBlank c := by
  induction t with
  | nil => exact absurd (List.forall_mem_nil _) h
  | cons c t ih =>
    by_cases ht : ∀ b ∈ t, Text.isBlank b
    · have hc : ¬ Text.isBlank c := fun hc => h (List.forall_mem_cons.mpr ⟨hc, ht⟩)
      exact ⟨[], c, t, rfl, by simpa using hc, ht⟩
    · obtain ⟨body, last, gap, rfl, hlast, hgap⟩ := ih ht
      exact ⟨c :: body, last, gap, rfl, hlast, hgap⟩

/-- The text up to a character, and that character too if it is no quote. -/
def upToQuote (body : Text) (last : Char) : Text := if isQuote last then body else body ++ [last]

theorem upToQuote_append (front body : Text) (last : Char) :
    upToQuote (front ++ body) last = front ++ upToQuote body last := by
  rw [upToQuote, upToQuote]
  split
  · rfl
  · rw [List.append_assoc]

/-- An argument of more than one character is all but a quote at the end and white space. -/
theorem shortest?_of_last (hbody : body ≠ []) (hlast : Text.isBlank last = false)
    (hgap : ∀ c ∈ gap, Text.isBlank c) :
    shortest? (body ++ last :: gap) =
      if '\n' ∈ upToQuote body last then none else some (upToQuote body last) := by
  have hcore : Text.trimEnd (body ++ last :: gap) = body ++ [last] := by
    rw [Text.trimEnd_append_cons_of_not_blank hlast, Text.trimEnd_eq_nil_iff.mpr hgap]
  have hlong : 2 ≤ (body ++ [last]).length := by
    have := List.length_pos_of_ne_nil hbody
    rw [List.length_append, List.length_singleton]
    omega
  by_cases hq : isQuote last
  · have hbut : (body ++ last :: gap).take ((body ++ [last]).length - 1) = body := by
      rw [List.length_append, List.length_singleton, Nat.add_sub_cancel, List.take_left]
    simp only [shortest?, upToQuote, hcore, List.getLast?_concat, hq, hlong, and_self, if_true, hbut,
      hbody, false_or]
  · have hall : (body ++ last :: gap).take (body ++ [last]).length = body ++ [last] := by
      have htext : body ++ last :: gap = body ++ [last] ++ gap := by simp
      rw [htext, List.take_left]
    have hne : body ++ [last] ≠ [] := List.append_ne_nil_of_left_ne_nil hbody _
    simp only [shortest?, upToQuote, hcore, List.getLast?_concat, hq, Bool.false_eq_true, false_and,
      if_false, hall, hne, false_or]

/-- An argument of one character is that character, if nothing but white space comes behind it. -/
theorem shortest?_of_one {c : Char} (hgap : ∀ b ∈ gap, Text.isBlank b) :
    shortest? (c :: gap) = if '\n' ∈ [c] then none else some [c] := by
  by_cases hc : Text.isBlank c
  · have hcore : Text.trimEnd (c :: gap) = [] :=
      Text.trimEnd_eq_nil_iff.mpr (List.forall_mem_cons.mpr ⟨hc, hgap⟩)
    simp [shortest?, hcore]
  · have hcore : Text.trimEnd (c :: gap) = [c] := by
      rw [Text.trimEnd_cons_of_not_blank (by simpa using hc), Text.trimEnd_eq_nil_iff.mpr hgap]
    simp [shortest?, hcore]

/-- Where the shortest argument ends: in front of the first text that ends it. -/
theorem exists_shortest (c : Char) (t : Text) : ∃ more after, t = more ++ after ∧ Ends after ∧
    (∀ x y, more = x ++ y → y ≠ [] → ¬ Ends (y ++ after)) ∧
    shortest? (c :: t) = if '\n' ∈ c :: more then none else some (c :: more) := by
  by_cases hblank : ∀ b ∈ t, Text.isBlank b
  · refine ⟨[], t, rfl, Or.inl hblank, ?_, shortest?_of_one hblank⟩
    exact fun x y hxy hy => absurd (List.append_eq_nil_iff.mp hxy.symm).2 hy
  · obtain ⟨body, last, gap, rfl, hlast, hgap⟩ := exists_last_written hblank
    have hshortest := shortest?_of_last (List.cons_ne_nil c body) hlast hgap
    -- The text that ends the argument would have to reach over the last character.
    have hstop : ∀ y, y ≠ [] → ¬ Ends (y ++ last :: gap) := by
      rintro y hy (hall | ⟨q, rest, hrest, -, hall⟩)
      · simp [hall last (by simp)] at hlast
      · obtain ⟨b, y, rfl⟩ := List.exists_cons_of_ne_nil hy
        obtain ⟨-, rfl⟩ := List.cons.inj hrest
        simp [hall last (by simp)] at hlast
    by_cases hq : isQuote last
    · rw [upToQuote, if_pos hq] at hshortest
      exact ⟨body, last :: gap, rfl, Or.inr ⟨last, gap, rfl, hq, hgap⟩, fun _ y _ => hstop y, hshortest⟩
    · rw [upToQuote, if_neg hq] at hshortest
      refine ⟨body ++ [last], gap, by simp, Or.inl hgap, fun x y hxy hy => ?_, hshortest⟩
      obtain ⟨front, b, rfl⟩ := (List.eq_nil_or_concat' y).resolve_left hy
      obtain rfl : b = last := by
        rw [← List.append_assoc] at hxy
        exact (List.singleton_inj.mp (List.append_inj' hxy rfl).2).symm
      rw [List.append_assoc, List.singleton_append]
      cases front with
      | cons => exact hstop _ (List.cons_ne_nil _ _)
      | nil =>
        rintro (hall | ⟨q, rest, hrest, hquote, -⟩)
        · simp [hall b (by simp)] at hlast
        · obtain ⟨rfl, -⟩ := List.cons.inj hrest
          exact hq hquote

/-- What stands in front of a text without an argument gives it none. -/
theorem shortest?_append_none {t : Text} {c : Char} (hc : Text.isBlank c = false)
    (h : shortest? (c :: t) = none) (front : Text) : shortest? (front ++ c :: t) = none := by
  have hwritten : ¬ ∀ b ∈ c :: t, Text.isBlank b := by simp [hc]
  obtain ⟨body, last, gap, htext, hlast, hgap⟩ := exists_last_written hwritten
  rw [htext] at h ⊢
  cases body with
  | nil =>
    have hfeed : '\n' ∉ [last] := by
      rw [List.mem_singleton]
      rintro rfl
      exact absurd hlast (by decide)
    rw [List.nil_append, shortest?_of_one hgap, if_neg hfeed] at h
    contradiction
  | cons b body =>
    have hfront : front ++ b :: body ≠ [] :=
      List.append_ne_nil_of_right_ne_nil _ (List.cons_ne_nil b body)
    rw [shortest?_of_last (List.cons_ne_nil b body) hlast hgap] at h
    rw [← List.append_assoc, shortest?_of_last hfront hlast hgap, upToQuote_append, if_pos]
    refine List.mem_append_right _ ?_
    by_contra hmem
    rw [if_neg hmem] at h
    contradiction

end Shortest

section Inside

/-- The group of an argument is read as the shortest one. -/
theorem kept_eq (t : Text) : kept (t ++ [')']) = (shortest? t).map Shape.alone := by
  cases t with
  | nil => rfl
  | cons c t =>
    obtain ⟨more, after, rfl, hends, hfirst, hshortest⟩ := exists_shortest c t
    have htext : c :: (more ++ after) ++ [')'] = c :: more ++ (after ++ [')']) := by simp
    rw [hshortest, htext, kept, Shape.read_group, Shape.read_inOrder_cons, Shape.read_inOrder_cons,
      Shape.read_inOrder_nil, List.cons_append, Shape.read]
    have hnone : ∀ x y : Text, more = x ++ y → y ≠ [] →
        (closing (y ++ (after ++ [')']))).map
          (Reading.keep 1 (Text.upTo (c :: (more ++ (after ++ [')']))) (y ++ (after ++ [')'])))) =
          none := by
      intro x y hxy hy
      have hstop := closing_of_not_ends (hfirst x y hxy hy)
      rw [List.append_assoc] at hstop
      rw [hstop, Option.map_none]
    by_cases hc : c = '\n'
    · rw [if_neg (by simp [hc]), if_pos (by simp [hc]), Option.map_none]
    · rw [if_pos (by simpa using hc)]
      by_cases hmore : '\n' ∈ more
      · rw [if_pos (List.mem_cons_of_mem c hmore), Option.map_none, Shape.read]
        exact Shape.readFew_of_refused hmore (by decide) hnone
      · have hpass : ∀ b ∈ more, Shape.outside ['\n'] b :=
          Shape.outside_of_no_stop (by simpa using hmore)
        have hkept : (closing (after ++ [')'])).map
            (Reading.keep 1 (Text.upTo (c :: (more ++ (after ++ [')']))) (after ++ [')']))) =
            some (Shape.alone (c :: more)) := by
          rw [closing_of_ends hends, ← List.cons_append, Text.upTo_append]
          rfl
        rw [if_neg (by simp [hmore, Ne.symm hc]), Option.map_some, Shape.read,
          Shape.readFew_append hpass hnone, Shape.readFew_of_some hkept]

/-- In front of an argument there can be a quote. -/
theorem opening_cons (c : Char) (t : Text) :
    opening (c :: t ++ [')']) =
      ((if isQuote c then shortest? t else none).or (shortest? (c :: t))).map Shape.alone := by
  rw [opening, Shape.read_optional, kept_eq, List.cons_append, Shape.read, Option.map_or]
  split
  · rw [kept_eq]
  · rfl

/-- White space in front of a character that is none is left out, whatever comes of it. -/
theorem readMany_opening {gap : Text} {c : Char} (hgap : ∀ b ∈ gap, Text.isBlank b)
    (hc : Text.isBlank c = false) (t : Text) :
    Shape.readMany Text.isBlank opening (gap ++ (c :: t ++ [')'])) = opening (c :: t ++ [')']) := by
  induction gap with
  | nil => rw [List.nil_append, List.cons_append, Shape.readMany, hc, if_neg Bool.false_ne_true]
  | cons b gap ih =>
    obtain ⟨hb, hgap⟩ := List.forall_mem_cons.mp hgap
    rw [List.cons_append, Shape.readMany_cons hb, ih hgap]
    cases hread : opening (c :: t ++ [')']) with
    | some r => rw [Option.some_or]
    | none =>
      -- What fails behind the white space fails with white space in front of it.
      rw [opening_cons, Option.map_eq_none_iff, Option.or_eq_none_iff] at hread
      have htext : b :: (gap ++ (c :: t ++ [')'])) = b :: (gap ++ c :: t) ++ [')'] := by simp
      have hnone := shortest?_append_none hc hread.2 (b :: gap)
      rw [List.cons_append] at hnone
      rw [Option.none_or, htext, opening_cons, isQuote_of_blank hb, if_neg Bool.false_ne_true, hnone]
      rfl

/-- Of white space the last character is the argument that is no line feed. -/
theorem readMany_opening_blank {gap : Text} (hgap : ∀ b ∈ gap, Text.isBlank b) :
    Shape.readMany Text.isBlank opening (gap ++ [')']) =
      (gap.reverse.find? (· != '\n')).map fun c => Shape.alone [c] := by
  induction gap with
  | nil => rfl
  | cons b gap ih =>
    obtain ⟨hb, hgap⟩ := List.forall_mem_cons.mp hgap
    rw [List.cons_append, Shape.readMany_cons hb, ih hgap, ← List.cons_append, opening_cons,
      isQuote_of_blank hb, if_neg Bool.false_ne_true, Option.none_or, shortest?_of_one hgap,
      List.reverse_cons, List.find?_append, Option.map_or]
    congr 1
    by_cases hfeed : b = '\n'
    · simp [hfeed]
    · simp [hfeed, Ne.symm hfeed]

/-- Reads what stands between the parentheses, and the closing one. -/
theorem blanks_opening_eq (inner : Text) :
    Shape.blanks.read opening (inner ++ [')']) = (read? inner).map Shape.alone := by
  have hcut : inner = inner.takeWhile Text.isBlank ++ Text.trimStart inner :=
    List.takeWhile_append_dropWhile.symm
  have hgap : ∀ b ∈ inner.takeWhile Text.isBlank, Text.isBlank b :=
    fun b hb => List.mem_takeWhile_imp hb
  rw [Shape.blanks, Shape.read, read?]
  rcases dropWhile_eq_nil_or_cons Text.isBlank inner with hnil | ⟨c, rest, hcons, hc⟩
  · have hblank := List.dropWhile_eq_nil_iff.mp hnil
    rw [readMany_opening_blank hblank, Text.trimStart, hnil, Option.map_map]
    rfl
  · rw [Text.trimStart, hcons] at hcut
    rw [Text.trimStart, hcons, hcut, List.append_assoc, readMany_opening hgap hc, opening_cons]
    by_cases hq : isQuote c
    · simp only [hq, if_true, Option.orElse_eq_or]
    · simp only [hq, Bool.false_eq_true, if_false, Option.none_or]

/-- Nothing is read that does not end with the closing parenthesis. -/
theorem blanks_opening_of_not_close {inner : Text} (h : inner.getLast? ≠ some ')') :
    Shape.blanks.read opening inner = none := by
  by_contra hread
  obtain ⟨r, hr⟩ := Option.ne_none_iff_exists'.mp hread
  obtain ⟨gone, rest, r, rfl, hopening, -⟩ := Shape.exists_of_read hr
  obtain ⟨gone', rest, r, rfl, hkept, -⟩ := Shape.exists_of_read hopening
  obtain ⟨body, rest, r, rfl, hclosing, -⟩ := Shape.exists_of_read hkept
  obtain ⟨quote, rest, r, rfl, hblanks, -⟩ := Shape.exists_of_read hclosing
  obtain ⟨gap, rest, r, rfl, hfinish, -⟩ := Shape.exists_of_read hblanks
  rw [read_finish_eq] at hfinish
  split at hfinish
  · next hrest =>
    subst hrest
    simp [← List.append_assoc] at h
  · contradiction

end Inside

/-- The argument of a token is what the group in its shape has been read as. -/
theorem matchWhole?_shape (name token : Text) :
    (shape name).matchWhole? token = (ofToken? name token).map Shape.alone := by
  have hread : (shape name).matchWhole? token = (afterLead? name token).bind
      (Shape.blanks.read ((Shape.word ['(']).read (Shape.blanks.read opening))) := by
    rw [Shape.matchWhole?, shape, Shape.read_inOrder_cons, Shape.read_word]
    rfl
  rw [hread, ofToken?]
  cases afterLead? name token with
  | none => rfl
  | some rest =>
    have hblank : ∀ c rest, Text.isBlank c →
        (Shape.word ['(']).read (Shape.blanks.read opening) (c :: rest) = none := by
      intro c rest hc
      have hne : '(' ≠ c := by
        rintro rfl
        exact absurd hc (by decide)
      rw [Shape.read_word, afterLead?, if_neg hne, Option.bind_none]
    rw [Option.bind_some, Shape.read_blanks hblank, Shape.read_word]
    simp only
    split
    · next inner htrim =>
      have hlead : afterLead? ['('] (Text.trimStart rest) = some inner := by
        rw [htrim]
        exact afterLead?_append ['('] inner
      rw [hlead, Option.bind_some]
      split
      · next hlast =>
        rw [← List.dropLast_append_getLast? ')' hlast, blanks_opening_eq, List.dropLast_concat]
      · next hlast => rw [blanks_opening_of_not_close hlast, Option.map_none]
    · next hopen =>
      cases hlead : afterLead? ['('] (Text.trimStart rest) with
      | none => rfl
      | some inner => exact absurd (afterLead?_eq_some_iff.mp hlead) (hopen inner)

end Argument

namespace ParsedModifier

/-- Behind a word, one or more accepted characters up to the end are read as the first group. -/
theorem matchWhole?_row (w : Text) (accepts : Char → Bool) (token : Text) :
    (Shape.inOrder [.word w, .group 1 (.inOrder [.one accepts, .many accepts])]).matchWhole? token =
      (afterLead? w token).bind fun row =>
        if row ≠ [] ∧ row.all accepts then some (Shape.alone row) else none := by
  rw [Shape.matchWhole?, Shape.read_inOrder_cons, Shape.read_word]
  congr 1
  funext row
  rw [Shape.read_inOrder_cons, Shape.read_inOrder_nil, Shape.read_group, Shape.read_inOrder_cons,
    Shape.read_inOrder_cons, Shape.read_inOrder_nil]
  cases row with
  | nil => rfl
  | cons c row =>
    rw [Shape.read, Shape.read, Shape.readMany_eq]
    · by_cases hrow : ∀ b ∈ row, accepts b
      · have hend : row.dropWhile accepts = [] := List.dropWhile_eq_nil_iff.mpr hrow
        have hall : Text.upTo (c :: row) [] = c :: row := by
          simpa using Text.upTo_append (c :: row) []
        rw [hend, if_pos rfl, Option.map_some, hall]
        simp only [ne_eq, List.cons_ne_nil, not_false_eq_true, true_and, List.all_cons,
          List.all_eq_true.mpr hrow, Bool.and_true]
        rfl
      · have hmore : row.dropWhile accepts ≠ [] := by rwa [Ne, List.dropWhile_eq_nil_iff]
        rw [if_neg hmore, Option.map_none]
        simp [hrow]
    · intro b rest _
      rw [if_neg (List.cons_ne_nil b rest), Option.map_none]

theorem matchWhole?_widthShape (token : Text) :
    widthShape.matchWhole? token = (widthDigits? token).map Shape.alone := by
  rw [widthShape, matchWhole?_row, widthDigits?]
  cases afterLead? "indent".toList token with
  | none => rfl
  | some digits =>
    simp only [Option.bind_some, bne_iff_ne, Bool.and_eq_true]
    split
    · rfl
    · rfl

end ParsedModifier

end Infill
