import Infill.Pattern.Parser
import Infill.Proofs.Pattern.Bracket

/-!
# Steps of the reader in front of a closing parenthesis

A step of the reader reads what comes next in the pattern and then changes the reader by it (`Edit`).
What it reads depends on the flags in force and on the names given to groups.
-/

namespace Infill.Pattern

open Infill.Unicode (CharSet)

variable {α β : Type} {flags : Flags} {t u rest : Text}

section Repetitions

theorem dropLazy_suffix (t : Text) : dropLazy t <:+ t := by
  unfold dropLazy
  split
  · exact List.suffix_cons '?' _
  · exact List.suffix_rfl

theorem Joined.dropLazy (h : Joined t u) : Joined (dropLazy t) (dropLazy u) := by
  rcases h.next (show '?' ≠ ')' by decide) with ⟨rest, rest', rfl, rfl, hj⟩ | ⟨hnone, hnone'⟩
  · exact hj
  · have hkeep : ∀ {w : Text}, (∀ rest, w ≠ '?' :: rest) → Pattern.dropLazy w = w := fun hw => by
      rw [Pattern.dropLazy]
      exact hw
    rw [hkeep hnone, hkeep hnone']
    exact h

/-- The end of counts behind the second one. -/
def countsEnd (least : Option Nat) (r : Option Nat × Text) : Read (Nat × Option Nat) :=
  match least, r.1, r.2 with
  | some least, some most, '}' :: rest =>
    if least ≤ most then .ok ((least, some most), rest) else .error .repetition
  | _, _, _ => .error .repetition

/-- A count that stands alone or in front of a comma, with the brace behind it. -/
def countAlone (least : Option Nat) (most : Nat → Option Nat) (rest : Text) :
    Read (Nat × Option Nat) :=
  match least with
  | some n => .ok ((n, most n), rest)
  | none => .error .repetition

/-- Counts behind their comma. -/
def countsTo (flags : Flags) (least : Option Nat) (t : Text) : Read (Nat × Option Nat) :=
  match t with
  | [] => .error .repetition
  | '}' :: rest => countAlone least (fun _ => none) rest
  | t => (readCount flags t).bind (countsEnd least)

/-- Counts behind the first one. -/
def countsFrom (flags : Flags) (r : Option Nat × Text) : Read (Nat × Option Nat) :=
  match r.2 with
  | ',' :: rest => countsTo flags r.1 (flags.pass rest)
  | '}' :: rest => countAlone r.1 some rest
  | _ => .error .repetition

theorem countsTo_other (least : Option Nat) (hnil : t ≠ []) (hbrace : ∀ rest, t ≠ '}' :: rest) :
    countsTo flags least t = (readCount flags t).bind (countsEnd least) := by
  rw [countsTo]
  · exact hnil
  · exact hbrace

theorem countsFrom_other (least : Option Nat) (hcomma : ∀ rest, t ≠ ',' :: rest)
    (hbrace : ∀ rest, t ≠ '}' :: rest) : countsFrom flags (least, t) = .error .repetition := by
  unfold countsFrom
  split
  · next h => exact absurd h (hcomma _)
  · next h => exact absurd h (hbrace _)
  · rfl

theorem countsEnd_other (least most : Option Nat) (hbrace : ∀ rest, t ≠ '}' :: rest) :
    countsEnd least (most, t) = .error .repetition := by
  rw [countsEnd]
  exact fun _ _ rest _ _ => hbrace rest

theorem readCounts_eq (flags : Flags) (t : Text) :
    readCounts flags t =
      if flags.pass t = [] then .error .repetition
      else (readCount flags (flags.pass t)).bind (countsFrom flags) := by
  unfold readCounts
  simp only [bind, pure, Except.pure]
  split
  · rfl
  · cases readCount flags (flags.pass t) with
    | error fault => rfl
    | ok r =>
      obtain ⟨least, rest⟩ := r
      simp only [Except.bind]
      split
      · next rest =>
        show _ = countsTo flags least (flags.pass rest)
        split
        · next hnil => rw [hnil, countsTo]
        · next hbrace =>
          rw [hbrace]
          cases least <;> rfl
        · next hnil hbrace =>
          rw [countsTo_other least hnil hbrace]
          cases readCount flags (flags.pass rest) with
          | error fault => rfl
          | ok r => rfl
      · cases least <;> rfl
      · next hcomma hbrace => rw [countsFrom_other least hcomma hbrace]

theorem leaves_countAlone (least : Option Nat) (most : Nat → Option Nat) (t : Text) :
    Leaves t (countAlone least most t) := by
  cases least with
  | none => exact leaves_error _
  | some n => exact leaves_ok List.suffix_rfl

theorem leaves_countsEnd (least most : Option Nat) (t : Text) :
    Leaves t (countsEnd least (most, t)) := by
  unfold countsEnd
  split
  · next h =>
    split
    · exact leaves_ok ((show t = _ from h) ▸ List.suffix_cons '}' _)
    · exact leaves_error _
  · exact leaves_error _

theorem leaves_countsTo (least : Option Nat) (t : Text) : Leaves t (countsTo flags least t) := by
  unfold countsTo
  split
  · exact leaves_error _
  · exact (leaves_countAlone _ _ _).mono (List.suffix_cons '}' _)
  · exact (leaves_readCount flags t).bind List.suffix_rfl fun _ _ => leaves_countsEnd _ _ _

theorem leaves_countsFrom (least : Option Nat) (t : Text) :
    Leaves t (countsFrom flags (least, t)) := by
  unfold countsFrom
  split
  · next rest h =>
    exact (leaves_countsTo least _).mono
      ((pass_suffix flags rest).trans ((show t = _ from h) ▸ List.suffix_cons ',' rest))
  · next rest h => exact (leaves_countAlone _ _ _).mono ((show t = _ from h) ▸ List.suffix_cons '}' rest)
  · exact leaves_error _

theorem leaves_readCounts (flags : Flags) (t : Text) : Leaves t (readCounts flags t) := by
  rw [readCounts_eq]
  split
  · exact leaves_error _
  · exact (leaves_readCount flags _).bind (pass_suffix flags t) fun _ _ => leaves_countsFrom _ _

variable {lost : Nat × Option Nat → Text → Prop}

theorem carries_countAlone (least : Option Nat) (most : Nat → Option Nat) (h : Joined t u) :
    Carries lost (countAlone least most t) (countAlone least most u) := by
  cases least with
  | none => exact .refl _
  | some n => exact carries_ok _ h

theorem carries_countsEnd (least most : Option Nat) (h : Joined t u) :
    Carries lost (countsEnd least (most, t)) (countsEnd least (most, u)) := by
  rcases h.next (show '}' ≠ ')' by decide) with ⟨rest, rest', rfl, rfl, hj⟩ | ⟨hnone, hnone'⟩
  · cases least with
    | none => exact .refl _
    | some least =>
      cases most with
      | none => exact .refl _
      | some most =>
        simp only [countsEnd]
        split
        · exact carries_ok _ hj
        · exact .refl _
  · rw [countsEnd_other least most hnone, countsEnd_other least most hnone']
    exact .refl _

/-- The closing parenthesis is no count. -/
theorem readCount_closing (flags : Flags) :
    ∃ u, readCount flags closing = .ok (none, u) ∧ Joined [] u := by
  have hnil : readCount flags [] = .ok (none, []) := by
    cases flags
    rename_i blank
    cases blank <;> rfl
  have hcarries : Carries Never (readCount flags []) (readCount flags closing) :=
    carries_readCount (joined_append [])
  exact hcarries.ok hnil

theorem carries_countsTo (least : Option Nat) (h : Joined t u) :
    Carries lost (countsTo flags least t) (countsTo flags least u) := by
  cases t with
  | nil =>
    rcases h.nil with rfl | rfl
    · exact .refl _
    · obtain ⟨u, hcount, -⟩ := readCount_closing flags
      rw [countsTo_other (t := closing) least (List.cons_ne_nil _ _) (closing_ne_cons (by decide)),
        hcount]
      cases least <;> exact carries_errors _ _
  | cons c t =>
    obtain ⟨v, rfl, hv⟩ := h.cons
    by_cases hc : c = '}'
    · subst hc
      exact carries_countAlone least _ hv
    · have hother : ∀ w, countsTo flags least (c :: w) =
          (readCount flags (c :: w)).bind (countsEnd least) := fun w =>
        countsTo_other least (List.cons_ne_nil c w) fun _ h => hc (List.cons.inj h).1
      rw [hother, hother]
      exact (carries_readCount h).bind_never fun _ _ _ hj => carries_countsEnd least _ hj

theorem carries_countsFrom (least : Option Nat) (h : Joined t u) :
    Carries lost (countsFrom flags (least, t)) (countsFrom flags (least, u)) := by
  rcases h.next (show ',' ≠ ')' by decide) with ⟨rest, rest', rfl, rfl, hj⟩ | ⟨hcomma, hcomma'⟩
  · exact carries_countsTo least (hj.pass flags)
  rcases h.next (show '}' ≠ ')' by decide) with ⟨rest, rest', rfl, rfl, hj⟩ | ⟨hbrace, hbrace'⟩
  · exact carries_countAlone least some hj
  · rw [countsFrom_other least hcomma hbrace, countsFrom_other least hcomma' hbrace']
    exact .refl _

/-- Counts do not begin with a parenthesis, nor do they end where they begin. -/
theorem readCounts_of_unbraced (h : flags.pass t = [] ∨ flags.pass t = closing) :
    readCounts flags t = .error .repetition := by
  rw [readCounts_eq]
  rcases h with hnil | hclosing
  · exact if_pos hnil
  · obtain ⟨u, hcount, hu⟩ := readCount_closing flags
    rw [hclosing, if_neg (show closing ≠ [] from List.cons_ne_nil _ _), hcount]
    rcases hu.nil with rfl | rfl <;> rfl

theorem carries_readCounts (h : Joined t u) :
    Carries lost (readCounts flags t) (readCounts flags u) := by
  have hpass := h.pass flags
  cases hrest : flags.pass t with
  | nil =>
    rw [hrest] at hpass
    rw [readCounts_of_unbraced (Or.inl hrest), readCounts_of_unbraced hpass.nil]
    exact .refl _
  | cons c rest =>
    rw [hrest] at hpass
    obtain ⟨rest', hrest', -⟩ := hpass.cons
    rw [hrest'] at hpass
    rw [readCounts_eq, readCounts_eq, hrest, hrest', if_neg (List.cons_ne_nil _ _),
      if_neg (List.cons_ne_nil _ _)]
    exact (carries_readCount hpass).bind_never fun _ _ _ hj => carries_countsFrom _ hj

end Repetitions

section Groups

theorem same_cutAt? {stops : Char → Bool} (hstops : ∀ c ∈ closing, stops c = false)
    (h : Joined t u) : Same (cutAt? stops t) (cutAt? stops u) := by
  rcases h with rfl | rfl
  · exact .refl _
  · cases hcut : cutAt? stops t with
    | none =>
      have hnone : cutAt? stops (t ++ closing) = none := cutAt?_eq_none_iff.mpr fun c hc =>
        (List.mem_append.mp hc).elim (cutAt?_eq_none_iff.mp hcut c) (hstops c)
      exact Or.inl ⟨rfl, hnone⟩
    | some parts =>
      obtain ⟨before, after⟩ := parts
      obtain ⟨c, hc, rfl⟩ := eq_append_of_cutAt? hcut
      have hsome := cutAt?_append (not_stops_of_cutAt? hcut) hc (after ++ closing)
      refine Or.inr ⟨before, after, after ++ closing, rfl, ?_, joined_append after⟩
      rw [List.append_assoc, List.cons_append, hsome]

/-- Whether a text can be the name of a group. -/
def isGroupName (name : Text) : Bool :=
  name.head?.any (isNameChar true) && name.tail.all (isNameChar false)

/-- A name for a group, if it can be given. -/
def checkedName (names : List Text) (name : Text) : Except Fault Text :=
  if !isGroupName name then .error .groupName
  else if names.contains name then .error .groupNameTwice
  else .ok name

theorem readName_eq (names : List Text) (t : Text) :
    readName names t = (cutAt? (· == '>') t).elim (.error .groupName) fun parts =>
      (checkedName names parts.1).bind fun name => .ok (name, parts.2) := by
  unfold readName
  cases cutAt? (· == '>') t with
  | none => rfl
  | some parts =>
    obtain ⟨name, rest⟩ := parts
    cases name with
    | nil => rfl
    | cons c more =>
      have hname : (!isNameChar true c || !more.all (isNameChar false)) =
          !isGroupName (c :: more) := by simp [isGroupName, Bool.not_and]
      simp only [Option.elim_some, checkedName, hname, List.contains_iff_mem]
      split
      · rfl
      · split <;> rfl

theorem leaves_readName (names : List Text) (t : Text) : Leaves t (readName names t) := by
  rw [readName_eq]
  cases hcut : cutAt? (· == '>') t with
  | none => exact leaves_error _
  | some parts =>
    obtain ⟨c, -, ht⟩ := eq_append_of_cutAt? hcut
    have hrest : parts.2 <:+ t :=
      ht ▸ (List.suffix_cons c parts.2).trans (List.suffix_append parts.1 _)
    exact leaves_bind_except fun _ => leaves_ok hrest

theorem carries_readName (names : List Text) (h : Joined t u) :
    Carries Never (readName names t) (readName names u) := by
  have hclosing : ∀ c ∈ closing, (c == '>') = false := by simp [closing]
  rw [readName_eq, readName_eq]
  rcases same_cutAt? hclosing h with ⟨hnone, hnone'⟩ | ⟨name, v, v', hcut, hcut', hj⟩
  · rw [hnone, hnone']
    exact .refl _
  · rw [hcut, hcut']
    exact carries_bind_except fun _ => carries_ok _ hj

theorem leaves_readFlags (on : Bool) (seen : Text) (flags : Flags) (t : Text) :
    Leaves t (readFlags on seen flags t) := by
  induction t generalizing on seen flags with
  | nil => exact leaves_error _
  | cons c t ih =>
    have hcons := List.suffix_cons c t
    rw [readFlags]
    split_ifs
    · exact leaves_error _
    · exact leaves_ok List.suffix_rfl
    · exact leaves_error _
    · exact (ih _ _ _).mono hcons
    · split
      · exact (ih _ _ _).mono hcons
      · exact leaves_error _

/-- Flags are followed by a colon or a parenthesis. -/
theorem ne_nil_of_readFlags {on : Bool} {seen : Text} {flags flags' : Flags}
    (h : readFlags on seen flags t = .ok (flags', rest)) : rest ≠ [] := by
  induction t generalizing on seen flags with
  | nil => contradiction
  | cons c t ih =>
    rw [readFlags] at h
    split_ifs at h
    · obtain ⟨⟩ := h
      exact List.cons_ne_nil c t
    · exact ih h
    · split at h
      · exact ih h
      · contradiction

/-- What is left in front of the closing parenthesis, which ends the flags. -/
def AtClosing (_ : Flags) (rest : Text) : Prop := rest = closing

theorem carries_readFlags (on : Bool) (seen : Text) (flags : Flags) (h : Joined t u) :
    Carries AtClosing (readFlags on seen flags t) (readFlags on seen flags u) := by
  induction t generalizing u on seen flags with
  | nil =>
    rcases h.nil with rfl | rfl
    · exact .refl _
    · refine carries_error fun flags' rest hrest => ?_
      rw [closing, readFlags, if_pos (by decide)] at hrest
      split at hrest
      · contradiction
      · obtain ⟨⟩ := hrest
        rfl
  | cons c t ih =>
    obtain ⟨v, rfl, hv⟩ := h.cons
    rw [readFlags, readFlags]
    split_ifs
    · exact .refl _
    · exact carries_ok _ h
    · exact .refl _
    · exact ih _ _ _ hv
    · split
      · exact ih _ _ _ hv
      · exact .refl _

end Groups

/-- What a step does to the reader. -/
inductive Edit
  | openGroup (flags : Flags) (name : Option Text)
  | changeFlags (flags : Flags)
  | closeGroup
  | split
  | push (p : Pattern) (depth : Nat)
  | repeatLast (least : Nat) (most : Option Nat)

/-- Changes the reader. -/
def Reader.edit (r : Reader) : Edit → Except Fault Reader
  | .openGroup flags name => .ok { r.openGroup flags with names := name.toList ++ r.names }
  | .changeFlags flags => .ok { r with flags, level := r.level.push .directive }
  | .closeGroup => r.closeGroup
  | .split => .ok { r with level := r.level.split }
  | .push p depth => .ok (r.push p depth)
  | .repeatLast least most => r.repeatLast least most

section Openings

/-- The ways to go on behind an opening parenthesis. -/
inductive GroupForm
  | plain
  | lookAround
  | name
  | flags

/-- How a group goes on behind `(?<`, and from where. -/
def formBehindAngle : Text → GroupForm × Text
  | [] => (.name, [])
  | c :: rest => if c = '=' ∨ c = '!' then (.lookAround, rest) else (.name, c :: rest)

/-- How a group goes on behind `(?`, and from where. -/
def formBehindMark : Text → GroupForm × Text
  | [] => (.flags, [])
  | c :: rest =>
    if c = '=' ∨ c = '!' then (.lookAround, rest)
    else if c = '<' then formBehindAngle rest
    else if c = 'P' ∧ rest.head? = some '<' then (.name, rest.tail)
    else (.flags, c :: rest)

/-- How a group goes on behind its parenthesis, and from where. -/
def groupForm : Text → GroupForm × Text
  | [] => (.plain, [])
  | c :: rest => if c = '?' then formBehindMark rest else (.plain, c :: rest)

theorem formBehindAngle_name (hequal : ∀ rest, t ≠ '=' :: rest) (hmark : ∀ rest, t ≠ '!' :: rest) :
    formBehindAngle t = (.name, t) := by
  cases t with
  | nil => rfl
  | cons c t =>
    refine if_neg ?_
    rintro (rfl | rfl)
    · exact hequal t rfl
    · exact hmark t rfl

theorem formBehindMark_flags (hequal : ∀ rest, t ≠ '=' :: rest) (hmark : ∀ rest, t ≠ '!' :: rest)
    (hangle : ∀ rest, t ≠ '<' :: rest) (hname : ∀ rest, t ≠ 'P' :: '<' :: rest) :
    formBehindMark t = (.flags, t) := by
  cases t with
  | nil => rfl
  | cons c t =>
    rw [formBehindMark, if_neg, if_neg, if_neg]
    · rintro ⟨rfl, hhead⟩
      obtain ⟨rest, rfl⟩ := List.head?_eq_some_iff.mp hhead
      exact hname rest rfl
    · rintro rfl
      exact hangle t rfl
    · rintro (rfl | rfl)
      · exact hequal t rfl
      · exact hmark t rfl

theorem groupForm_plain (hmark : ∀ rest, t ≠ '?' :: rest) : groupForm t = (.plain, t) := by
  cases t with
  | nil => rfl
  | cons c t => exact if_neg fun hc : c = '?' => hmark t (hc ▸ rfl)

/-- The end of flags: they hold in a group of their own, or from here on. -/
def flagsEnd (start : Text) (r : Flags × Text) : Read Edit :=
  match r.2 with
  | ':' :: after => .ok (.openGroup r.1 none, after)
  | after =>
    if start.head? == some ')' then .error .nothingToRepeat
    else .ok (.changeFlags r.1, after.drop 1)

theorem flagsEnd_other (start : Text) (flags : Flags) (hcolon : ∀ rest, t ≠ ':' :: rest) :
    flagsEnd start (flags, t) =
      if start.head? == some ')' then .error .nothingToRepeat
      else .ok (.changeFlags flags, t.drop 1) := by
  unfold flagsEnd
  split
  · next h => exact absurd h (hcolon _)
  · rfl

/-- Reads a group of the given form. -/
def groupOf (flags : Flags) (names : List Text) : GroupForm × Text → Read Edit
  | (.plain, t) => .ok (.openGroup flags none, t)
  | (.lookAround, _) => .error .lookAround
  | (.name, t) => (readName names t).bind fun r => .ok (.openGroup flags (some r.1), r.2)
  | (.flags, t) => (readFlags true [] flags t).bind (flagsEnd t)

/-- Reads what follows an opening parenthesis. -/
def groupEdit (flags : Flags) (names : List Text) (t : Text) : Read Edit :=
  groupOf flags names (groupForm (flags.pass t))

theorem readGroup_eq (r : Reader) (t : Text) :
    readGroup r t = (groupEdit r.flags r.names t).bind fun next =>
      (r.edit next.1).bind fun r => .ok (r, next.2) := by
  have hnamed : ∀ rest, readGroup.named r rest =
      (groupOf r.flags r.names (.name, rest)).bind fun next =>
        (r.edit next.1).bind fun r => .ok (r, next.2) := fun rest => by
    rw [readGroup.named, groupOf]
    cases readName r.names rest <;> rfl
  unfold readGroup groupEdit
  split
  · next h => rw [h]; rfl
  · next h => rw [h]; rfl
  · next h => rw [h]; rfl
  · next h => rw [h]; rfl
  · next h => rw [h]; exact hnamed _
  · next rest hequal hmark h =>
    have hform : groupForm ('?' :: '<' :: rest) = (.name, rest) := formBehindAngle_name hequal hmark
    rw [h, hform, hnamed]
  · next rest hequal hmark _ _ hname hangle h =>
    have hform : groupForm ('?' :: rest) = (.flags, rest) :=
      formBehindMark_flags hequal hmark hangle hname
    rw [h, hform, groupOf]
    cases readFlags true [] r.flags rest with
    | error fault => rfl
    | ok next =>
      obtain ⟨flags, after⟩ := next
      show _ = (flagsEnd rest (flags, after)).bind _
      split
      · contradiction
      · next hcolon =>
        obtain ⟨⟩ := hcolon
        rfl
      · next hcolon hafter =>
        obtain ⟨⟩ := hafter
        rw [flagsEnd_other rest flags hcolon]
        split <;> rfl
  · next hmark =>
    rw [groupForm_plain hmark]
    rfl

theorem formBehindAngle_suffix (t : Text) : (formBehindAngle t).2 <:+ t := by
  cases t with
  | nil => exact List.suffix_rfl
  | cons c t =>
    rw [formBehindAngle]
    split
    · exact List.suffix_cons c t
    · exact List.suffix_rfl

theorem formBehindMark_suffix (t : Text) : (formBehindMark t).2 <:+ t := by
  cases t with
  | nil => exact List.suffix_rfl
  | cons c t =>
    rw [formBehindMark]
    split_ifs
    · exact List.suffix_cons c t
    · exact (formBehindAngle_suffix t).trans (List.suffix_cons c t)
    · exact (List.tail_suffix t).trans (List.suffix_cons c t)
    · exact List.suffix_rfl

theorem groupForm_suffix (t : Text) : (groupForm t).2 <:+ t := by
  cases t with
  | nil => exact List.suffix_rfl
  | cons c t =>
    rw [groupForm]
    split
    · exact (formBehindMark_suffix t).trans (List.suffix_cons c t)
    · exact List.suffix_rfl

theorem formBehindAngle_joined (h : Joined t u) :
    (formBehindAngle t).1 = (formBehindAngle u).1 ∧
      Joined (formBehindAngle t).2 (formBehindAngle u).2 := by
  cases t with
  | nil => rcases h.nil with rfl | rfl <;> exact ⟨rfl, h⟩
  | cons c t =>
    obtain ⟨v, rfl, hv⟩ := h.cons
    simp only [formBehindAngle]
    split
    · exact ⟨rfl, hv⟩
    · exact ⟨rfl, h⟩

/-- The next character, if it is not the closing parenthesis, is the next in front of it. -/
theorem Joined.head? {c : Char} (h : Joined t u) (hc : c ≠ ')') :
    t.head? = some c ↔ u.head? = some c := by
  cases t with
  | nil =>
    rcases h.nil with rfl | rfl
    · rfl
    · simp [closing, Ne.symm hc]
  | cons a t =>
    obtain ⟨v, rfl, -⟩ := h.cons
    rfl

theorem formBehindMark_joined (h : Joined t u) :
    (formBehindMark t).1 = (formBehindMark u).1 ∧
      Joined (formBehindMark t).2 (formBehindMark u).2 := by
  cases t with
  | nil => rcases h.nil with rfl | rfl <;> exact ⟨rfl, h⟩
  | cons c t =>
    obtain ⟨v, rfl, hv⟩ := h.cons
    simp only [formBehindMark, hv.head? (show '<' ≠ ')' by decide)]
    split_ifs with _ _ hname
    · exact ⟨rfl, hv⟩
    · exact formBehindAngle_joined hv
    · obtain ⟨rest', rfl⟩ := List.head?_eq_some_iff.mp hname.2
      obtain ⟨rest, rfl⟩ := List.head?_eq_some_iff.mp ((hv.head? (by decide)).mpr hname.2)
      obtain ⟨_, hcons, hj⟩ := hv.cons
      obtain rfl := (List.cons.inj hcons).2
      exact ⟨rfl, hj⟩
    · exact ⟨rfl, h⟩

theorem groupForm_joined (h : Joined t u) :
    (groupForm t).1 = (groupForm u).1 ∧ Joined (groupForm t).2 (groupForm u).2 := by
  cases t with
  | nil => rcases h.nil with rfl | rfl <;> exact ⟨rfl, h⟩
  | cons c t =>
    obtain ⟨v, rfl, hv⟩ := h.cons
    simp only [groupForm]
    split
    · exact formBehindMark_joined hv
    · exact ⟨rfl, h⟩

theorem leaves_flagsEnd (start : Text) (flags : Flags) (t : Text) :
    Leaves t (flagsEnd start (flags, t)) := by
  unfold flagsEnd
  split
  · next rest h => exact leaves_ok ((show t = _ from h) ▸ List.suffix_cons ':' rest)
  · split
    · exact leaves_error _
    · exact leaves_ok (List.drop_suffix 1 t)

theorem leaves_groupOf (names : List Text) (form : GroupForm) (t : Text) :
    Leaves t (groupOf flags names (form, t)) := by
  cases form with
  | plain => exact leaves_ok List.suffix_rfl
  | lookAround => exact leaves_error _
  | name => exact (leaves_readName names t).bind List.suffix_rfl fun _ _ => leaves_ok List.suffix_rfl
  | flags =>
    exact (leaves_readFlags _ _ _ t).bind List.suffix_rfl fun _ rest => leaves_flagsEnd t _ rest

theorem leaves_groupEdit (names : List Text) (t : Text) : Leaves t (groupEdit flags names t) :=
  (leaves_groupOf names _ _).mono ((groupForm_suffix _).trans (pass_suffix flags t))

/-- What is left after a step that has taken the closing parenthesis for something else than the end of
a group. -/
def Swallowed (e : Edit) (rest : Text) : Prop := e ≠ .closeGroup ∧ Lost e rest

theorem carries_flagsOf (h : Joined t u) :
    Carries Swallowed ((readFlags true [] flags t).bind (flagsEnd t))
      ((readFlags true [] flags u).bind (flagsEnd u)) := by
  cases t with
  | nil =>
    rcases h.nil with rfl | rfl
    · exact .refl _
    · exact carries_errors .flags .nothingToRepeat
  | cons c t =>
    obtain ⟨v, rfl, hv⟩ := h.cons
    refine (carries_readFlags true [] flags h).bind_lost ?_ ?_
    · intro flags' rest rest' hrest _ hj
      rcases hj.next (show ':' ≠ ')' by decide) with ⟨after, after', rfl, rfl, hj'⟩ |
        ⟨hnone, hnone'⟩
      · exact carries_ok _ hj'
      · rw [flagsEnd_other _ flags' hnone, flagsEnd_other _ flags' hnone']
        rw [show (c :: t).head? = (c :: v).head? from rfl]
        split
        · exact .refl _
        · obtain ⟨d, after, rfl⟩ := List.exists_cons_of_ne_nil (ne_nil_of_readFlags hrest)
          obtain ⟨after', rfl, hj'⟩ := hj.cons
          exact carries_ok _ hj'
    · rintro flags' _ e after rfl hafter
      rw [flagsEnd_other (t := closing) _ flags' (closing_ne_cons (by decide))] at hafter
      split at hafter
      · contradiction
      · obtain ⟨⟩ := hafter
        exact ⟨nofun, List.suffix_rfl⟩

theorem carries_groupOf (names : List Text) (form : GroupForm) (h : Joined t u) :
    Carries Swallowed (groupOf flags names (form, t)) (groupOf flags names (form, u)) := by
  cases form with
  | plain => exact carries_ok _ h
  | lookAround => exact .refl _
  | name => exact (carries_readName names h).bind_never fun _ _ _ hj => carries_ok _ hj
  | flags => exact carries_flagsOf h

theorem carries_groupEdit (names : List Text) (h : Joined t u) :
    Carries Swallowed (groupEdit flags names t) (groupEdit flags names u) := by
  have hjoined := groupForm_joined (h.pass flags)
  rcases hform : groupForm (flags.pass t) with ⟨form, v⟩
  rcases hform' : groupForm (flags.pass u) with ⟨form', v'⟩
  rw [hform, hform'] at hjoined
  obtain ⟨rfl, hj⟩ : form = form' ∧ Joined v v' := hjoined
  rw [groupEdit, groupEdit, hform, hform']
  exact carries_groupOf names form hj

end Openings

section Steps

/-- What a primitive adds. -/
def primitiveEdit (flags : Flags) : Primitive → Except Fault Edit
  | .literal c byte =>
    if byte && !flags.unicode && 0x80 ≤ c.toNat then .error .notText
    else .ok (.push (.set (flags.literal c)) 0)
  | .members s => .ok (.push (.set s) 0)
  | .assertion l => .ok (.push (.look l) 0)

/-- The assertion of a caret. -/
def caretLook (flags : Flags) : Look :=
  if !flags.multiLine then .start else if flags.returns then .lineStartReturn else .lineStart

/-- The assertion of a dollar sign. -/
def dollarLook (flags : Flags) : Look :=
  if !flags.multiLine then .stop else if flags.returns then .lineStopReturn else .lineStop

/-- Reads the operator or operand that starts with `c`. -/
def readEdit (flags : Flags) (names : List Text) (c : Char) (t : Text) : Read Edit :=
  match c with
  | '(' => groupEdit flags names t
  | ')' => .ok (.closeGroup, t)
  | '|' => .ok (.split, t)
  | '[' => (readSet flags t).bind fun r => .ok (.push (.set r.1.1) r.1.2, r.2)
  | '?' => .ok (.repeatLast 0 (some 1), dropLazy t)
  | '*' => .ok (.repeatLast 0 none, dropLazy t)
  | '+' => .ok (.repeatLast 1 none, dropLazy t)
  | '{' =>
    (readCounts flags t).bind fun r => .ok (.repeatLast r.1.1 r.1.2, dropLazy (flags.pass r.2))
  | '\\' => (readEscape flags t).bind fun r => (primitiveEdit flags r.1).bind fun e => .ok (e, r.2)
  | '.' => flags.dot.bind fun s => .ok (.push (.set s) 0, t)
  | '^' => .ok (.push (.look (caretLook flags)) 0, t)
  | '$' => .ok (.push (.look (dollarLook flags)) 0, t)
  | c => .ok (.push (.set (flags.literal c)) 0, t)

theorem pushPrimitive_eq (r : Reader) (p : Primitive) :
    r.pushPrimitive p = (primitiveEdit r.flags p).bind r.edit := by
  cases p with
  | literal c byte =>
    rw [Reader.pushPrimitive, primitiveEdit]
    split <;> rfl
  | members s => rfl
  | assertion l => rfl

/-- A step reads and then changes the reader. -/
theorem readNext_eq (r : Reader) (c : Char) (t : Text) :
    readNext r c t = (readEdit r.flags r.names c t).bind fun next =>
      (r.edit next.1).bind fun r => .ok (r, next.2) := by
  unfold readNext
  simp only [bind, pure, Except.pure]
  split
  · exact readGroup_eq r t
  · rfl
  · rfl
  · simp only [readEdit]
    cases readSet r.flags t <;> rfl
  · rfl
  · rfl
  · rfl
  · simp only [readEdit]
    cases readCounts r.flags t <;> rfl
  · simp only [readEdit, pushPrimitive_eq]
    cases readEscape r.flags t with
    | error fault => rfl
    | ok x =>
      obtain ⟨p, rest⟩ := x
      simp only [Except.bind]
      cases primitiveEdit r.flags p <;> rfl
  · simp only [readEdit]
    cases r.flags.dot <;> rfl
  · rfl
  · rfl
  · rw [readEdit]
    · rfl
    all_goals assumption

/-- What a step reads: a group, a set, counts, an escape, or nothing more but what makes a repetition
lazy. -/
inductive StepForm (flags : Flags) (names : List Text) : (Text → Read Edit) → Prop
  | group : StepForm flags names (groupEdit flags names)
  | set : StepForm flags names fun t =>
      (readSet flags t).bind fun r => .ok (.push (.set r.1.1) r.1.2, r.2)
  | counts : StepForm flags names fun t => (readCounts flags t).bind fun r =>
      .ok (.repeatLast r.1.1 r.1.2, dropLazy (flags.pass r.2))
  | escape : StepForm flags names fun t => (readEscape flags t).bind fun r =>
      (primitiveEdit flags r.1).bind fun e => .ok (e, r.2)
  | repetition (e : Edit) : StepForm flags names fun t => .ok (e, dropLazy t)
  | single (e : Except Fault Edit) : StepForm flags names fun t => e.bind fun e => .ok (e, t)

/-- The form of a step depends on its first character alone. -/
theorem stepForm (flags : Flags) (names : List Text) (c : Char) :
    StepForm flags names (readEdit flags names c) := by
  unfold readEdit
  split
  · exact .group
  · exact .single (.ok .closeGroup)
  · exact .single (.ok .split)
  · exact .set
  · exact .repetition (.repeatLast 0 (some 1))
  · exact .repetition (.repeatLast 0 none)
  · exact .repetition (.repeatLast 1 none)
  · exact .counts
  · exact .escape
  · convert StepForm.single (flags.dot.bind fun s => .ok (.push (.set s) 0)) with t
    cases flags.dot <;> rfl
  · exact .single (.ok (.push (.look (caretLook flags)) 0))
  · exact .single (.ok (.push (.look (dollarLook flags)) 0))
  · exact .single (.ok (.push (.set (flags.literal c)) 0))

theorem leaves_readEdit (names : List Text) (c : Char) (t : Text) :
    Leaves t (readEdit flags names c t) := by
  have hform := stepForm flags names c
  generalize readEdit flags names c = read at hform
  cases hform with
  | group => exact leaves_groupEdit names t
  | set => exact (leaves_readSet flags t).bind List.suffix_rfl fun _ _ => leaves_ok List.suffix_rfl
  | counts =>
    exact (leaves_readCounts flags t).bind List.suffix_rfl fun _ rest =>
      leaves_ok ((dropLazy_suffix _).trans (pass_suffix flags rest))
  | escape =>
    exact (leaves_readEscape flags t).bind List.suffix_rfl fun _ _ =>
      leaves_bind_except fun _ => leaves_ok List.suffix_rfl
  | repetition e => exact leaves_ok (dropLazy_suffix t)
  | single e => exact leaves_bind_except fun _ => leaves_ok List.suffix_rfl

/-- What is left after a step that goes another way in front of the closing parenthesis: behind the
parenthesis, or at a brace that is no name of a boundary and no count either. -/
def Misled (flags : Flags) (e : Edit) (rest : Text) : Prop :=
  Swallowed e rest ∨ (∃ l, e = .push (.look l) 0) ∧ Unbraced flags rest

theorem primitiveEdit_ne_closeGroup {p : Primitive} {e : Edit} (h : primitiveEdit flags p = .ok e) :
    e ≠ .closeGroup := by
  rintro rfl
  cases p with
  | literal c byte =>
    rw [primitiveEdit] at h
    split at h <;> cases h
  | members s => cases h
  | assertion l => cases h

/-- A step reads the same in front of the closing parenthesis, unless it fails without it. -/
theorem carries_readEdit (flags : Flags) (names : List Text) (c : Char) (h : Joined t u) :
    Carries (Misled flags) (readEdit flags names c t) (readEdit flags names c u) := by
  have hform := stepForm flags names c
  generalize readEdit flags names c = read at hform
  cases hform with
  | group => exact (carries_groupEdit names h).weaken fun _ _ => Or.inl
  | set => exact (carries_readSet h).bind_never fun _ _ _ hj => carries_ok _ hj
  | counts =>
    exact (carries_readCounts h).bind_never fun _ _ _ hj => carries_ok _ (hj.pass flags).dropLazy
  | escape =>
    refine (carries_readEscape h).bind_lost
      (fun _ _ _ _ _ hj => carries_bind_except fun _ => carries_ok _ hj) ?_
    rintro p rest e after hlost hafter
    obtain ⟨e, hedit, ⟨⟩⟩ := exists_of_bind hafter
    rcases hlost with hlost | ⟨⟨l, rfl⟩, hunbraced⟩
    · exact Or.inl ⟨primitiveEdit_ne_closeGroup hedit, hlost⟩
    · obtain ⟨⟩ := hedit
      exact Or.inr ⟨⟨l, rfl⟩, hunbraced⟩
  | repetition e => exact carries_ok e h.dropLazy
  | single e => exact carries_bind_except fun _ => carries_ok _ h

end Steps

end Infill.Pattern
