import Infill.Pattern.Bracket
import Infill.Proofs.Pattern.Reading
import Infill.Proofs.Text

/-!
# Bracketed sets in front of a closing parenthesis

A bracketed set ends with a bracket of its own, so whatever stands behind a pattern cannot close one: a
set that the pattern leaves open stays open, and every other is read as it is without it.
-/

namespace Infill.Pattern

open Infill.Unicode (CharSet)

variable {α β : Type} {flags : Flags} {t u rest : Text}

section Frames

/-- What is left holds no bracket that would close a set. -/
def Unclosed (_ : α) (rest : Text) : Prop := ']' ∉ rest

theorem unclosed_of_leaves {r : Read α} {x : α} (h : Leaves t r) (ht : ']' ∉ t)
    (hr : r = .ok (x, rest)) : Unclosed x rest :=
  fun hmem => ht ((h x rest hr).subset hmem)

/-- A reader that needs more than nothing finds no bracket in the closing parenthesis. -/
theorem carries_unclosed_nil {read : Text → Read α} {fault : Fault} (hnil : read [] = .error fault)
    (hleaves : Leaves closing (read closing)) (h : Joined [] u) :
    Carries Unclosed (read []) (read u) := by
  rcases h.nil with rfl | rfl
  · exact .refl _
  · rw [hnil]
    exact carries_error fun _ _ hv => unclosed_of_leaves hleaves (by decide) hv

theorem Carries.bind_unclosed {alone joined : Read α} {g : α × Text → Read β}
    (h : Carries Unclosed alone joined)
    (hg : ∀ x t u, alone = .ok (x, t) → Joined t u → Carries Unclosed (g (x, t)) (g (x, u)))
    (hleaves : ∀ x u, Leaves u (g (x, u))) :
    Carries Unclosed (Except.bind alone g) (Except.bind joined g) :=
  h.bind_lost (fun x t u halone _ => hg x t u halone)
    fun x u _ _ hlost hv => unclosed_of_leaves (hleaves x u) hlost hv

end Frames

section Openings

/-- A beginning that holds no parenthesis is found in front of the closing one where it is found
without it. -/
theorem afterLead?_joined {lead : Text} (hlead : ')' ∉ lead) (h : Joined t u) :
    (afterLead? lead t = none ∧ afterLead? lead u = none) ∨
      ∃ v v', afterLead? lead t = some v ∧ afterLead? lead u = some v' ∧ Joined v v' := by
  induction lead generalizing t u with
  | nil => exact Or.inr ⟨t, u, rfl, rfl, h⟩
  | cons a lead ih =>
    rw [List.mem_cons, not_or] at hlead
    cases t with
    | nil =>
      refine Or.inl ⟨rfl, ?_⟩
      rcases h.nil with rfl | rfl
      · rfl
      · exact if_neg (Ne.symm hlead.1)
    | cons c t =>
      obtain ⟨v, rfl, hv⟩ := h.cons
      simp only [afterLead?]
      split
      · exact ih hlead.2 hv
      · exact Or.inl ⟨rfl, rfl⟩

/-- A POSIX name behind its colon. -/
def posixBody? (flags : Flags) (negated : Bool) (t : Text) : Option (Except Fault CharSet × Text) :=
  (afterLead? ":]".toList (t.dropWhile (· != ':'))).bind fun after =>
    (posixSet? (t.takeWhile (· != ':'))).map fun s => (flags.negate negated (flags.fold s), after)

theorem posixName?_caret (t : Text) :
    posixName? flags (':' :: '^' :: t) = posixBody? flags true t := by
  simp only [posixName?, posixBody?]
  cases afterLead? ":]".toList (t.dropWhile (· != ':')) <;>
    cases posixSet? (t.takeWhile (· != ':')) <;> rfl

theorem posixName?_plain (h : ∀ rest, t ≠ '^' :: rest) :
    posixName? flags (':' :: t) = posixBody? flags false t := by
  simp only [posixName?, posixBody?]
  cases afterLead? ":]".toList (t.dropWhile (· != ':')) <;>
    cases posixSet? (t.takeWhile (· != ':')) <;> rfl

theorem posixName?_other (h : ∀ rest, t ≠ ':' :: rest) : posixName? flags t = none := by
  rw [posixName?]
  exact h

/-- What is left behind a POSIX name. -/
theorem suffix_of_posixBody? {negated : Bool} {r : Except Fault CharSet}
    (h : posixBody? flags negated t = some (r, rest)) : rest <:+ t := by
  obtain ⟨after, hafter, hmap⟩ := Option.bind_eq_some_iff.mp h
  obtain ⟨s, -, hs⟩ := Option.map_eq_some_iff.mp hmap
  obtain rfl : after = rest := (Prod.mk.inj hs).2
  have hdrop := afterLead?_eq_some_iff.mp hafter
  have hsuffix : after <:+ t.dropWhile (· != ':') := hdrop ▸ List.suffix_append ":]".toList after
  exact hsuffix.trans (List.dropWhile_suffix _)

theorem suffix_of_posixName? {r : Except Fault CharSet} (h : posixName? flags t = some (r, rest)) :
    rest <:+ t := by
  by_cases hcolon : ∃ inner, t = ':' :: inner
  · obtain ⟨inner, rfl⟩ := hcolon
    by_cases hcaret : ∃ body, inner = '^' :: body
    · obtain ⟨body, rfl⟩ := hcaret
      rw [posixName?_caret] at h
      exact (suffix_of_posixBody? h).trans
        ((List.suffix_cons '^' body).trans (List.suffix_cons ':' _))
    · rw [posixName?_plain (not_exists.mp hcaret)] at h
      exact (suffix_of_posixBody? h).trans (List.suffix_cons ':' inner)
  · rw [posixName?_other (not_exists.mp hcolon)] at h
    contradiction

/-- Two attempts come to the same: to nothing, or to one result with joined rests. -/
def Same (alone joined : Option (α × Text)) : Prop :=
  (alone = none ∧ joined = none) ∨
    ∃ x v v', alone = some (x, v) ∧ joined = some (x, v') ∧ Joined v v'

theorem Same.refl (r : Option (α × Text)) : Same r r := by
  cases r with
  | none => exact Or.inl ⟨rfl, rfl⟩
  | some p => exact Or.inr ⟨p.1, p.2, p.2, rfl, rfl, .refl _⟩

theorem posixBody?_append (negated : Bool) {name : Text} (hname : ':' ∉ name) (d : Text) :
    posixBody? flags negated (name ++ ':' :: d) =
      (afterLead? ":]".toList (':' :: d)).bind fun after =>
        (posixSet? name).map fun s => (flags.negate negated (flags.fold s), after) := by
  have hall : ∀ c ∈ name, (c != ':') = true := fun c hc => bne_iff_ne.mpr (ne_of_mem_of_not_mem hc hname)
  rw [posixBody?, takeWhile_append_stop hall (by decide), dropWhile_append_stop hall (by decide)]

theorem posixBody?_of_not_mem (negated : Bool) (ht : ':' ∉ t) : posixBody? flags negated t = none := by
  have hdrop : t.dropWhile (· != ':') = [] :=
    List.dropWhile_eq_nil_iff.mpr fun c hc => bne_iff_ne.mpr (ne_of_mem_of_not_mem hc ht)
  rw [posixBody?, hdrop]
  rfl

theorem same_posixBody? (negated : Bool) (h : Joined t u) :
    Same (posixBody? flags negated t) (posixBody? flags negated u) := by
  rcases h with rfl | rfl
  · exact .refl _
  · by_cases hcolon : ':' ∈ t
    · obtain ⟨name, d, rfl, hname⟩ := List.eq_append_cons_of_mem hcolon
      rw [List.append_assoc, List.cons_append, posixBody?_append negated hname,
        posixBody?_append negated hname]
      rcases afterLead?_joined (show ')' ∉ ":]".toList by decide) ((joined_append d).of_cons ':') with
        ⟨hnone, hnone'⟩ | ⟨v, v', hv, hv', hj⟩
      · rw [hnone, hnone']
        exact .refl none
      · rw [hv, hv']
        cases posixSet? name with
        | none => exact .refl none
        | some s => exact Or.inr ⟨_, v, v', rfl, rfl, hj⟩
    · have hcolon' : ':' ∉ t ++ closing := by
        rw [List.mem_append, not_or]
        exact ⟨hcolon, by decide⟩
      rw [posixBody?_of_not_mem negated hcolon, posixBody?_of_not_mem negated hcolon']
      exact .refl none

theorem same_posixName? (flags : Flags) (h : Joined t u) :
    Same (posixName? flags t) (posixName? flags u) := by
  rcases h.next (show ':' ≠ ')' by decide) with ⟨inner, inner', rfl, rfl, hj⟩ | ⟨hnone, hnone'⟩
  · rcases hj.next (show '^' ≠ ')' by decide) with ⟨body, body', rfl, rfl, hj'⟩ | ⟨hnone, hnone'⟩
    · rw [posixName?_caret, posixName?_caret]
      exact same_posixBody? true hj'
    · rw [posixName?_plain hnone, posixName?_plain hnone']
      exact same_posixBody? false hj
  · rw [posixName?_other hnone, posixName?_other hnone']
    exact .refl none

theorem hyphensOf_eq (flags : Flags) (fuel : Nat) (t : Text) :
    hyphensOf flags fuel t = ((takePassing (· == '-') flags fuel t).1.length,
      (takePassing (· == '-') flags fuel t).2) := by
  induction fuel generalizing t with
  | zero => rfl
  | succ fuel ih =>
    cases t with
    | nil => rfl
    | cons c t =>
      by_cases hc : c = '-'
      · subst hc
        simp [hyphensOf, takePassing, ih]
      · have hrefused : (c == '-') = false := beq_eq_false_iff_ne.mpr hc
        simp only [takePassing, hrefused, Bool.false_eq_true, if_false]
        rw [hyphensOf]
        · rfl
        · rintro rest h
          exact hc (List.cons.inj h).1

/-- What has been read of a set that opens with hyphens or with nothing. -/
def membersOfHyphens (hyphens : Nat) : Members :=
  if hyphens = 0 then {} else { set := CharSet.single '-', count := hyphens }

/-- The opening of a set behind its caret and hyphens. -/
def openedAt (flags : Flags) (negated : Bool) (hyphens : Nat) (t : Text) : Read (Members × Bool) :=
  match t with
  | [] => .error .classUnclosed
  | ']' :: rest =>
    if hyphens = 0 then
      match flags.pass rest with
      | [] => .error .classUnclosed
      | rest => .ok ((({} : Members).add (CharSet.single ']') 0, negated), rest)
    else .ok ((membersOfHyphens hyphens, negated), t)
  | _ => .ok ((membersOfHyphens hyphens, negated), t)

/-- The opening of a set behind its caret. -/
def openedBehind (flags : Flags) (negated : Bool) (t : Text) : Read (Members × Bool) :=
  openedAt flags negated (takePassing (· == '-') flags t.length t).1.length
    (takePassing (· == '-') flags t.length t).2

theorem readOpening_caret (h : flags.pass t = '^' :: rest) :
    readOpening flags t = openedBehind flags true (flags.pass rest) := by
  simp only [readOpening, h, hyphensOf_eq]
  rfl

theorem readOpening_plain (h : ∀ rest, flags.pass t ≠ '^' :: rest) :
    readOpening flags t = openedBehind flags false (flags.pass t) := by
  simp only [readOpening, hyphensOf_eq]
  rfl

/-- A set's first bracket, if nothing but a caret stands before it. -/
theorem openedAt_bracket (negated : Bool) (rest : Text) :
    openedAt flags negated 0 (']' :: rest) =
      if flags.pass rest = [] then .error .classUnclosed
      else .ok ((({} : Members).add (CharSet.single ']') 0, negated), flags.pass rest) := by
  simp only [openedAt]
  cases flags.pass rest <;> rfl

theorem openedAt_other (negated : Bool) {hyphens : Nat} (hnil : t ≠ [])
    (h : hyphens = 0 → ∀ rest, t ≠ ']' :: rest) :
    openedAt flags negated hyphens t = .ok ((membersOfHyphens hyphens, negated), t) := by
  unfold openedAt
  split
  · contradiction
  · next rest => exact if_neg fun hzero => h hzero rest rfl
  · rfl

theorem leaves_openedAt (negated : Bool) (hyphens : Nat) (t : Text) :
    Leaves t (openedAt flags negated hyphens t) := by
  by_cases hnil : t = []
  · exact hnil ▸ leaves_error _
  by_cases hbracket : hyphens = 0 ∧ ∃ rest, t = ']' :: rest
  · obtain ⟨rfl, rest, rfl⟩ := hbracket
    rw [openedAt_bracket]
    split
    · exact leaves_error _
    · exact leaves_ok ((pass_suffix flags rest).trans (List.suffix_cons ']' rest))
  · rw [openedAt_other negated hnil fun hzero rest hrest => hbracket ⟨hzero, rest, hrest⟩]
    exact leaves_ok List.suffix_rfl

theorem carries_openedAt (negated : Bool) (hyphens : Nat) (h : Joined t u) :
    Carries Unclosed (openedAt flags negated hyphens t) (openedAt flags negated hyphens u) := by
  cases t with
  | nil => exact carries_unclosed_nil rfl (leaves_openedAt negated hyphens closing) h
  | cons c t =>
    obtain ⟨v, rfl, hv⟩ := h.cons
    by_cases hbracket : hyphens = 0 ∧ c = ']'
    · obtain ⟨rfl, rfl⟩ := hbracket
      have hpass := hv.pass flags
      rw [openedAt_bracket, openedAt_bracket]
      cases hrest : flags.pass t with
      | nil =>
        rw [hrest] at hpass
        rcases hpass.nil with hnil | hclosing
        · rw [hnil]
          exact carries_errors _ _
        · rw [hclosing]
          refine carries_error ?_
          rintro _ _ ⟨⟩
          exact (by decide : ']' ∉ closing)
      | cons d rest =>
        rw [hrest] at hpass
        obtain ⟨rest', hrest', -⟩ := hpass.cons
        rw [hrest'] at hpass ⊢
        exact carries_ok _ hpass
    · have hother : ∀ t, hyphens = 0 → ∀ rest, c :: t ≠ ']' :: rest :=
        fun t hzero rest heq => hbracket ⟨hzero, (List.cons.inj heq).1⟩
      rw [openedAt_other negated (List.cons_ne_nil c t) (hother t),
        openedAt_other negated (List.cons_ne_nil c v) (hother v)]
      exact carries_ok _ h

theorem leaves_openedBehind (negated : Bool) (t : Text) :
    Leaves t (openedBehind flags negated t) :=
  (leaves_openedAt _ _ _).mono (takePassing_suffix _ flags _ t)

theorem carries_openedBehind (negated : Bool) (h : Joined t u) :
    Carries Unclosed (openedBehind flags negated t) (openedBehind flags negated u) := by
  obtain ⟨hhyphens, hafter⟩ :=
    takePassing_joined (· == '-') (by decide) flags h t.length.le_refl u.length.le_refl
  rw [openedBehind, openedBehind, ← hhyphens]
  exact carries_openedAt negated _ hafter

theorem leaves_readOpening (flags : Flags) (t : Text) : Leaves t (readOpening flags t) := by
  have hpass := pass_suffix flags t
  by_cases hcaret : ∃ rest, flags.pass t = '^' :: rest
  · obtain ⟨rest, hrest⟩ := hcaret
    rw [hrest] at hpass
    rw [readOpening_caret hrest]
    exact (leaves_openedBehind true _).mono
      ((pass_suffix flags rest).trans ((List.suffix_cons '^' rest).trans hpass))
  · rw [readOpening_plain (not_exists.mp hcaret)]
    exact (leaves_openedBehind false _).mono hpass

theorem carries_readOpening (h : Joined t u) :
    Carries Unclosed (readOpening flags t) (readOpening flags u) := by
  have hpass := h.pass flags
  rcases hpass.next (show '^' ≠ ')' by decide) with ⟨rest, rest', hrest, hrest', hj⟩ |
    ⟨hnone, hnone'⟩
  · rw [readOpening_caret hrest, readOpening_caret hrest']
    exact carries_openedBehind true (hj.pass flags)
  · rw [readOpening_plain hnone, readOpening_plain hnone']
    exact carries_openedBehind false hpass

end Openings

section Ranges

variable {lost : CharSet → Text → Prop}

theorem leaves_readMember_cons (flags : Flags) (c : Char) (t : Text) :
    Leaves t (readMember flags (c :: t)) := by
  rw [readMember]
  split
  · exact leaves_readEscape flags t
  · exact leaves_ok List.suffix_rfl

theorem leaves_readMember (flags : Flags) (t : Text) : Leaves t (readMember flags t) := by
  cases t with
  | nil => exact leaves_error _
  | cons c t => exact (leaves_readMember_cons flags c t).mono (List.suffix_cons c t)

/-- What is `Unclosed`, or stands behind an assertion, which no set holds. -/
def MemberLost (p : Primitive) (rest : Text) : Prop := Unclosed p rest ∨ ∃ l, p = .assertion l

theorem carries_readMember (h : Joined t u) :
    Carries MemberLost (readMember flags t) (readMember flags u) := by
  cases t with
  | nil =>
    exact (carries_unclosed_nil rfl (leaves_readMember flags closing) h).weaken fun _ _ => Or.inl
  | cons c t =>
    obtain ⟨v, rfl, hv⟩ := h.cons
    rw [readMember, readMember]
    split
    · refine (carries_readEscape hv).weaken fun p rest hlost => ?_
      rcases hlost with hlost | ⟨hassertion, -⟩
      · exact Or.inl fun hmem => absurd (hlost.subset hmem) (by decide)
      · exact Or.inr hassertion
    · exact carries_ok _ hv

/-- Behind blanks that reach to the end, the closing parenthesis comes next. -/
theorem peekPast_blank (hflag : flags.ignoreBlank = true) (h : t.dropWhile Text.isBlank = []) :
    peekPast flags t = t.head? := by
  rw [peekPast, if_pos hflag, h]

theorem peekPast_cons (hflag : flags.ignoreBlank = true) {c : Char}
    (h : t.dropWhile Text.isBlank = c :: rest) :
    peekPast flags t = if c = '#' then t.head? else some c := by
  simp only [peekPast, hflag, if_true, h]
  split
  · contradiction
  · next hc => rw [if_pos (List.cons.inj hc).1]
  · next hother hc =>
    obtain ⟨rfl, rfl⟩ := List.cons.inj hc
    rw [if_neg hother]

/-- A character that is neither a blank nor the closing parenthesis is peeked at in front of the
closing parenthesis where it is peeked at without it. -/
theorem peekPast_joined {c : Char} (hblank : Text.isBlank c = false) (hc : c ≠ ')') (h : Joined t u) :
    peekPast flags t = some c ↔ peekPast flags u = some c := by
  rcases h with rfl | rfl
  · exact Iff.rfl
  cases t with
  | nil =>
    have hclosing : peekPast flags closing = some ')' := by
      unfold peekPast
      split <;> rfl
    have hnone : peekPast flags [] = none := by
      unfold peekPast
      split <;> rfl
    rw [hnone, List.nil_append, hclosing]
    simp [Ne.symm hc]
  | cons a t =>
    cases hflag : flags.ignoreBlank with
    | false => simp [peekPast, hflag]
    | true =>
      have hclosing : closing.dropWhile Text.isBlank = ')' :: ['$'] := by decide
      have hskip := @List.dropWhile_append _ Text.isBlank (a :: t) closing
      cases hrest : (a :: t).dropWhile Text.isBlank with
      | nil =>
        have ha : Text.isBlank a = true := List.dropWhile_eq_nil_iff.mp hrest a List.mem_cons_self
        have hne : a ≠ c := by
          rintro rfl
          rw [ha] at hblank
          contradiction
        rw [hrest, hclosing] at hskip
        rw [peekPast_blank hflag hrest, peekPast_cons hflag hskip, if_neg (by decide)]
        simp [hne, Ne.symm hc]
      | cons d rest =>
        rw [hrest] at hskip
        rw [peekPast_cons hflag hrest, peekPast_cons hflag hskip]
        rfl

/-- Whether a hyphen stands for itself: a closing bracket or another hyphen comes next. -/
def EndsRange (flags : Flags) (t : Text) : Prop :=
  peekPast flags t = some ']' ∨ peekPast flags t = some '-'

theorem endsRange_joined (h : Joined t u) : EndsRange flags t ↔ EndsRange flags u :=
  or_congr (peekPast_joined (by decide) (by decide) h) (peekPast_joined (by decide) (by decide) h)

/-- A member that is no range. -/
def single (flags : Flags) (first : Primitive) (rest : Text) : Read CharSet :=
  (memberSet flags first).bind fun s => .ok (s, rest)

/-- The range between two members. -/
def rangeBetween (flags : Flags) (first : Primitive) (r : Primitive × Text) : Read CharSet :=
  (rangeEnd flags first).bind fun low => (rangeEnd flags r.1).bind fun high =>
    if low ≤ high then .ok ([(low.toNat, high.toNat)], r.2) else .error .classRange

/-- The range from a member to the next one. -/
def rangeTo (flags : Flags) (first : Primitive) (t : Text) : Read CharSet :=
  if t = [] then .error .classUnclosed
  else (readMember flags t).bind (rangeBetween flags first)

/-- What begins with a member: a range, or the member alone. -/
def rangeFrom (flags : Flags) (first : Primitive) (t : Text) : Read CharSet :=
  match t with
  | [] => .error .classUnclosed
  | '-' :: after =>
    if peekPast flags after == some ']' || peekPast flags after == some '-' then
      single flags first ('-' :: after)
    else rangeTo flags first (flags.pass after)
  | t => single flags first t

theorem rangeFrom_range (first : Primitive) (h : ¬EndsRange flags t) :
    rangeFrom flags first ('-' :: t) = rangeTo flags first (flags.pass t) := by
  simp only [rangeFrom, Bool.or_eq_true, beq_iff_eq]
  exact if_neg h

theorem rangeFrom_single (first : Primitive) (hnil : t ≠ [])
    (h : ∀ rest, t = '-' :: rest → EndsRange flags rest) :
    rangeFrom flags first t = single flags first t := by
  unfold rangeFrom
  split
  · contradiction
  · simp only [Bool.or_eq_true, beq_iff_eq]
    exact if_pos (h _ rfl)
  · rfl

theorem readRange_eq (flags : Flags) (t : Text) :
    readRange flags t =
      (readMember flags t).bind fun r => rangeFrom flags r.1 (flags.pass r.2) := by
  unfold readRange
  cases readMember flags t with
  | error fault => rfl
  | ok r =>
    obtain ⟨first, rest⟩ := r
    show _ = rangeFrom flags first (flags.pass rest)
    simp only [bind, Except.bind, pure, Except.pure]
    split
    · next hnil => rw [hnil, rangeFrom]
    · next after hafter =>
      rw [hafter]
      simp only [rangeFrom]
      split
      · rfl
      · unfold rangeTo
        cases hrest : flags.pass after with
        | nil => rfl
        | cons c rest => rfl
    · next hnil hhyphen =>
      rw [rangeFrom_single first hnil fun after h => absurd h (hhyphen after)]
      rfl

theorem leaves_single (first : Primitive) (t : Text) : Leaves t (single flags first t) :=
  leaves_bind_except fun _ => leaves_ok List.suffix_rfl

theorem leaves_rangeBetween (first last : Primitive) (t : Text) :
    Leaves t (rangeBetween flags first (last, t)) := by
  refine leaves_bind_except fun low => leaves_bind_except fun high => ?_
  split
  · exact leaves_ok List.suffix_rfl
  · exact leaves_error _

theorem leaves_rangeTo (first : Primitive) (t : Text) : Leaves t (rangeTo flags first t) := by
  unfold rangeTo
  split
  · exact leaves_error _
  · exact (leaves_readMember flags t).bind List.suffix_rfl fun _ _ => leaves_rangeBetween _ _ _

theorem leaves_rangeFrom (first : Primitive) (t : Text) : Leaves t (rangeFrom flags first t) := by
  by_cases hrange : ∃ rest, t = '-' :: rest ∧ ¬EndsRange flags rest
  · obtain ⟨rest, rfl, hends⟩ := hrange
    rw [rangeFrom_range first hends]
    exact (leaves_rangeTo first _).mono ((pass_suffix flags rest).trans (List.suffix_cons '-' rest))
  by_cases hnil : t = []
  · exact hnil ▸ leaves_error _
  · rw [rangeFrom_single first hnil fun rest h => by_contra fun hends => hrange ⟨rest, h, hends⟩]
    exact leaves_single first t

theorem leaves_readRange_cons (flags : Flags) (c : Char) (t : Text) :
    Leaves t (readRange flags (c :: t)) := by
  rw [readRange_eq]
  exact (leaves_readMember_cons flags c t).bind List.suffix_rfl
    fun _ rest => (leaves_rangeFrom _ _).mono (pass_suffix flags rest)

theorem carries_single (first : Primitive) (h : Joined t u) :
    Carries lost (single flags first t) (single flags first u) :=
  carries_bind_except fun _ => carries_ok _ h

theorem carries_rangeBetween (first last : Primitive) (h : Joined t u) :
    Carries lost (rangeBetween flags first (last, t)) (rangeBetween flags first (last, u)) := by
  refine carries_bind_except fun low => carries_bind_except fun high => ?_
  dsimp only
  split
  · exact carries_ok _ h
  · exact .refl _

theorem not_rangeBetween_assertion {first : Primitive} {l : Look} {s : CharSet} :
    rangeBetween flags first (.assertion l, t) ≠ .ok (s, rest) := by
  unfold rangeBetween
  cases rangeEnd flags first with
  | error fault => exact fun h => nomatch h
  | ok low => exact fun h => nomatch h

theorem carries_rangeTo (first : Primitive) (h : Joined t u) :
    Carries Unclosed (rangeTo flags first t) (rangeTo flags first u) := by
  cases t with
  | nil => exact carries_unclosed_nil rfl (leaves_rangeTo first closing) h
  | cons c t =>
    obtain ⟨v, rfl, hv⟩ := h.cons
    refine (carries_readMember h).bind_lost (fun _ _ _ _ _ hj => carries_rangeBetween first _ hj) ?_
    rintro last rest s after hlost hafter
    rcases hlost with hlost | ⟨l, rfl⟩
    · exact unclosed_of_leaves (leaves_rangeBetween first last rest) hlost hafter
    · exact absurd hafter not_rangeBetween_assertion

theorem carries_rangeFrom (first : Primitive) (h : Joined t u) :
    Carries Unclosed (rangeFrom flags first t) (rangeFrom flags first u) := by
  cases t with
  | nil => exact carries_unclosed_nil rfl (leaves_rangeFrom first closing) h
  | cons c t =>
    obtain ⟨v, rfl, hv⟩ := h.cons
    by_cases hrange : c = '-' ∧ ¬EndsRange flags t
    · obtain ⟨rfl, hends⟩ := hrange
      rw [rangeFrom_range first hends, rangeFrom_range first ((endsRange_joined hv).not.mp hends)]
      exact carries_rangeTo first (hv.pass flags)
    · have hsingle : ∀ w, (EndsRange flags t ↔ EndsRange flags w) →
          rangeFrom flags first (c :: w) = single flags first (c :: w) := by
        refine fun w hw => rangeFrom_single first (List.cons_ne_nil c w) fun rest hrest => ?_
        obtain ⟨rfl, rfl⟩ := List.cons.inj hrest
        exact hw.mp (by_contra fun hends => hrange ⟨rfl, hends⟩)
      rw [hsingle t Iff.rfl, hsingle v (endsRange_joined hv)]
      exact carries_single first h

theorem not_rangeFrom_assertion {l : Look} {s : CharSet} :
    rangeFrom flags (.assertion l) t ≠ .ok (s, rest) := by
  intro h
  unfold rangeFrom at h
  split at h
  · contradiction
  · split at h
    · contradiction
    · unfold rangeTo at h
      split at h
      · contradiction
      · cases hmember : readMember flags (flags.pass _) with
        | error fault =>
          rw [hmember] at h
          contradiction
        | ok r =>
          rw [hmember] at h
          contradiction
  · contradiction

theorem carries_readRange (h : Joined t u) :
    Carries Unclosed (readRange flags t) (readRange flags u) := by
  rw [readRange_eq, readRange_eq]
  refine (carries_readMember h).bind_lost
    (fun first _ _ _ _ hj => carries_rangeFrom first (hj.pass flags)) ?_
  rintro first rest s after hlost hafter
  rcases hlost with hlost | ⟨l, rfl⟩
  · exact unclosed_of_leaves ((leaves_rangeFrom first _).mono (pass_suffix flags rest)) hlost hafter
  · exact absurd hafter not_rangeFrom_assertion

end Ranges

section Brackets

/-- What one step inside a bracket comes to: the whole set with its depth, or the members and what is
open around them. -/
abbrev Progress := CharSet × Nat ⊕ Members × List Around

/-- Opens a bracket or adds a POSIX class. -/
def bracketOpen (flags : Flags) (members : Members) (around : List Around) (t : Text) :
    Read Progress :=
  match posixName? flags t with
  | some (s, after) => s.bind fun s => .ok (.inr (members.add s 0, around), after)
  | none =>
    (readOpening flags t).bind fun r => .ok (.inr (r.1.1, .bracket members r.1.2 :: around), r.2)

/-- Closes the innermost bracket. -/
def bracketClose (flags : Flags) (members : Members) (around : List Around) :
    Except Fault Progress :=
  match closeOperator flags members around with
  | (inner, depth, .bracket before negated :: outer) =>
    (flags.negate negated (flags.fold inner)).bind fun s =>
      .ok (if outer = [] then .inl (s, depth + 1) else .inr (before.add s (depth + 1), outer))
  | _ => .error .classUnclosed

/-- The operator between sets that is written as two of a character. -/
def operator? : Char → Option SetOp
  | '&' => some .inter
  | '-' => some .minus
  | '~' => some .exclusive
  | _ => none

/-- The operator between sets at the start. -/
def operatorAt? : Text → Option (SetOp × Text)
  | a :: b :: rest => if a = b then (operator? a).map fun op => (op, rest) else none
  | _ => none

theorem operatorAt?_eq_none (hand : ∀ rest, t ≠ '&' :: '&' :: rest)
    (hminus : ∀ rest, t ≠ '-' :: '-' :: rest) (htilde : ∀ rest, t ≠ '~' :: '~' :: rest) :
    operatorAt? t = none := by
  unfold operatorAt?
  split
  · next a b rest =>
    split_ifs with hab
    · subst hab
      unfold operator?
      split
      · exact absurd rfl (hand rest)
      · exact absurd rfl (hminus rest)
      · exact absurd rfl (htilde rest)
      · rfl
    · rfl
  · rfl

theorem suffix_of_operatorAt? {c : Char} {op : SetOp}
    (h : operatorAt? (c :: t) = some (op, rest)) : rest <:+ t := by
  cases t with
  | nil => contradiction
  | cons d t =>
    simp only [operatorAt?] at h
    split at h
    · obtain ⟨_, -, hrest⟩ := Option.map_eq_some_iff.mp h
      exact (Prod.mk.inj hrest).2 ▸ List.suffix_cons d t
    · contradiction

theorem same_operatorAt? (h : Joined t u) : Same (operatorAt? t) (operatorAt? u) := by
  match t, h with
  | [], h =>
    rcases h.nil with rfl | rfl
    · exact .refl _
    · exact .refl none
  | [a], h =>
    obtain ⟨v, rfl, hv⟩ := h.cons
    rcases hv.nil with rfl | rfl
    · exact .refl _
    · have hnone : operatorAt? (a :: closing) = none := by
        by_cases ha : a = ')'
        · subst ha
          rfl
        · exact if_neg ha
      rw [hnone]
      exact .refl none
  | a :: b :: rest, h =>
    obtain ⟨v, rfl, hv⟩ := h.cons
    obtain ⟨rest', rfl, hj⟩ := hv.cons
    simp only [operatorAt?]
    split
    · cases operator? a with
      | none => exact .refl none
      | some op => exact Or.inr ⟨op, rest, rest', rfl, rfl, hj⟩
    · exact .refl none

/-- Opens an operator. -/
def bracketOperator (flags : Flags) (members : Members) (around : List Around) (op : SetOp) :
    Progress :=
  let left := closeOperator flags members around
  .inr ({}, .operator op left.1 left.2.1 :: left.2.2)

/-- Reads an operator or a member. -/
def bracketEntry (flags : Flags) (members : Members) (around : List Around) (t : Text) :
    Read Progress :=
  match operatorAt? t with
  | some (op, rest) => .ok (bracketOperator flags members around op, rest)
  | none => (readRange flags t).bind fun r => .ok (.inr (members.add r.1 0, around), r.2)

/-- One step inside a bracket. -/
def bracketStep (flags : Flags) (members : Members) (around : List Around) (t : Text) :
    Read Progress :=
  match t with
  | [] => .error .classUnclosed
  | '[' :: rest => bracketOpen flags members around rest
  | ']' :: rest => (bracketClose flags members around).bind fun next => .ok (next, rest)
  | t => bracketEntry flags members around t

/-- The steps after the first one. -/
def bracketSteps (flags : Flags) (fuel : Nat) : Progress × Text → Read (CharSet × Nat)
  | (.inl result, rest) => .ok (result, rest)
  | (.inr (members, around), rest) => readBracket flags fuel members around rest

theorem bracketStep_open (members : Members) (around : List Around) (t : Text) :
    bracketStep flags members around ('[' :: t) = bracketOpen flags members around t := rfl

theorem bracketStep_close (members : Members) (around : List Around) (t : Text) :
    bracketStep flags members around (']' :: t) =
      (bracketClose flags members around).bind fun next => .ok (next, t) := rfl

theorem bracketStep_entry (members : Members) (around : List Around) (hnil : t ≠ [])
    (hopen : ∀ rest, t ≠ '[' :: rest) (hclose : ∀ rest, t ≠ ']' :: rest) :
    bracketStep flags members around t = bracketEntry flags members around t := by
  rw [bracketStep]
  · exact hnil
  · exact hopen
  · exact hclose

theorem bracketStep_entry_cons (members : Members) (around : List Around) {c : Char}
    (hopen : c ≠ '[') (hclose : c ≠ ']') (t : Text) :
    bracketStep flags members around (c :: t) = bracketEntry flags members around (c :: t) :=
  bracketStep_entry members around (List.cons_ne_nil c t) (fun _ h => hopen (List.cons.inj h).1)
    fun _ h => hclose (List.cons.inj h).1

theorem readBracket_succ (flags : Flags) (fuel : Nat) (members : Members) (around : List Around)
    (t : Text) :
    readBracket flags (fuel + 1) members around t =
      (bracketStep flags members around (flags.pass t)).bind (bracketSteps flags fuel) := by
  rw [readBracket]
  generalize flags.pass t = t
  split
  · rfl
  · rw [bracketStep_open, bracketOpen]
    split
    · next h => rw [h]; rfl
    · next h => rw [h]; rfl
    · next h =>
      rw [h]
      dsimp only
      cases readOpening flags _ <;> rfl
  · rw [bracketStep_close, bracketClose]
    rcases closeOperator flags members around with ⟨inner, depth, _ | ⟨b, outer⟩⟩
    · rfl
    · cases b with
      | operator op left depth => rfl
      | bracket before negated =>
        dsimp only
        cases flags.negate negated (flags.fold inner) with
        | error fault => rfl
        | ok s => cases outer <;> rfl
  · rfl
  · rfl
  · rfl
  · next hnil hopen hclose hand hminus htilde =>
    rw [bracketStep_entry members around hnil hopen hclose, bracketEntry,
      operatorAt?_eq_none hand hminus htilde]
    cases readRange flags t <;> rfl

theorem leaves_bracketOpen (members : Members) (around : List Around) (t : Text) :
    Leaves t (bracketOpen flags members around t) := by
  unfold bracketOpen
  split
  · next h => exact leaves_bind_except fun _ => leaves_ok (suffix_of_posixName? h)
  · exact (leaves_readOpening flags t).bind List.suffix_rfl fun _ _ => leaves_ok List.suffix_rfl

theorem leaves_bracketEntry_cons (members : Members) (around : List Around) (c : Char) (t : Text) :
    Leaves t (bracketEntry flags members around (c :: t)) := by
  unfold bracketEntry
  split
  · next h => exact leaves_ok (suffix_of_operatorAt? h)
  · exact (leaves_readRange_cons flags c t).bind List.suffix_rfl fun _ _ => leaves_ok List.suffix_rfl

theorem leaves_bracketStep_cons (members : Members) (around : List Around) (c : Char) (t : Text) :
    Leaves t (bracketStep flags members around (c :: t)) := by
  by_cases hopen : c = '['
  · subst hopen
    exact leaves_bracketOpen members around t
  by_cases hclose : c = ']'
  · subst hclose
    exact leaves_bind_except fun _ => leaves_ok List.suffix_rfl
  · rw [bracketStep_entry_cons members around hopen hclose]
    exact leaves_bracketEntry_cons members around c t

theorem isRight_of_bracketOpen {members : Members} {around : List Around} {next : Progress}
    (h : bracketOpen flags members around t = .ok (next, rest)) : next.isRight = true := by
  unfold bracketOpen at h
  split at h
  · obtain ⟨s, -, ⟨⟩⟩ := exists_of_bind h
    rfl
  · obtain ⟨r, -, ⟨⟩⟩ := exists_of_bind h
    rfl

theorem isRight_of_bracketEntry {members : Members} {around : List Around} {next : Progress}
    (h : bracketEntry flags members around t = .ok (next, rest)) : next.isRight = true := by
  unfold bracketEntry at h
  split at h
  · obtain ⟨⟩ := h
    rfl
  · obtain ⟨r, -, ⟨⟩⟩ := exists_of_bind h
    rfl

/-- Nothing but a closing bracket ends a set. -/
theorem eq_cons_of_bracketStep {members : Members} {around : List Around} {result : CharSet × Nat}
    (h : bracketStep flags members around t = .ok (.inl result, rest)) : t = ']' :: rest := by
  unfold bracketStep at h
  split at h
  · contradiction
  · exact absurd (isRight_of_bracketOpen h) Bool.false_ne_true
  · obtain ⟨next, -, hnext⟩ := exists_of_bind h
    obtain ⟨⟩ := hnext
    rfl
  · exact absurd (isRight_of_bracketEntry h) Bool.false_ne_true

theorem leaves_bracketStep (members : Members) (around : List Around) (t : Text) :
    Leaves t (bracketStep flags members around t) := by
  cases t with
  | nil => exact leaves_error .classUnclosed
  | cons c t => exact (leaves_bracketStep_cons members around c t).mono (List.suffix_cons c t)

theorem bracket_mem_of_readBracket {fuel : Nat} {members : Members} {around : List Around}
    {result : CharSet × Nat} (h : readBracket flags fuel members around t = .ok (result, rest)) :
    ']' ∈ t := by
  induction fuel generalizing members around t with
  | zero => contradiction
  | succ fuel ih =>
    rw [readBracket_succ] at h
    obtain ⟨⟨next, after⟩, hstep, hsteps⟩ := exists_of_bind h
    have hpass := pass_suffix flags t
    cases next with
    | inl result =>
      rw [eq_cons_of_bracketStep hstep] at hpass
      exact hpass.subset List.mem_cons_self
    | inr state =>
      have hafter := (leaves_bracketStep members around _ _ _ hstep).trans hpass
      exact hafter.subset (ih hsteps)

/-- What goes on inside a bracket that nothing closes. -/
def StillOpen (next : Progress) (rest : Text) : Prop := next.isRight = true ∧ ']' ∉ rest

theorem carries_bracketOpen (members : Members) (around : List Around) (h : Joined t u) :
    Carries StillOpen (bracketOpen flags members around t) (bracketOpen flags members around u) := by
  have hopen : Carries Unclosed (bracketOpen flags members around t)
      (bracketOpen flags members around u) := by
    unfold bracketOpen
    rcases same_posixName? flags h with ⟨hnone, hnone'⟩ | ⟨s, v, v', hname, hname', hj⟩
    · rw [hnone, hnone']
      exact (carries_readOpening h).bind_unclosed (fun _ _ _ _ hj => carries_ok _ hj)
        fun _ _ => leaves_ok List.suffix_rfl
    · rw [hname, hname']
      exact carries_bind_except fun _ => carries_ok _ hj
  exact ⟨hopen.ok, fun halone hjoined =>
    ⟨isRight_of_bracketOpen hjoined, hopen.error halone hjoined⟩⟩

theorem carries_bracketEntry (members : Members) (around : List Around) (h : Joined t u) :
    Carries StillOpen (bracketEntry flags members around t)
      (bracketEntry flags members around u) := by
  have hentry : Carries Unclosed (bracketEntry flags members around t)
      (bracketEntry flags members around u) := by
    unfold bracketEntry
    rcases same_operatorAt? h with ⟨hnone, hnone'⟩ | ⟨op, v, v', hop, hop', hj⟩
    · rw [hnone, hnone']
      exact (carries_readRange h).bind_unclosed (fun _ _ _ _ hj => carries_ok _ hj)
        fun _ _ => leaves_ok List.suffix_rfl
    · rw [hop, hop']
      exact carries_ok _ hj
  exact ⟨hentry.ok, fun halone hjoined =>
    ⟨isRight_of_bracketEntry hjoined, hentry.error halone hjoined⟩⟩

theorem carries_bracketStep (members : Members) (around : List Around) (h : Joined t u) :
    Carries StillOpen (bracketStep flags members around t)
      (bracketStep flags members around u) := by
  cases t with
  | nil =>
    rcases h.nil with rfl | rfl
    · exact .refl _
    · exact carries_error fun next rest hnext =>
        ⟨isRight_of_bracketEntry (t := closing) hnext,
          unclosed_of_leaves (leaves_bracketStep_cons members around ')' ['$']) (by decide) hnext⟩
  | cons c t =>
    obtain ⟨v, rfl, hv⟩ := h.cons
    by_cases hopen : c = '['
    · subst hopen
      exact carries_bracketOpen members around hv
    by_cases hclose : c = ']'
    · subst hclose
      exact carries_bind_except fun _ => carries_ok _ hv
    · rw [bracketStep_entry_cons members around hopen hclose,
        bracketStep_entry_cons members around hopen hclose]
      exact carries_bracketEntry members around h

theorem length_lt_of_bracketStep {members : Members} {around : List Around} {next : Progress}
    (h : bracketStep flags members around (flags.pass t) = .ok (next, rest)) :
    rest.length < t.length := by
  have hpass := (pass_suffix flags t).length_le
  cases hrest : flags.pass t with
  | nil =>
    rw [hrest] at h
    contradiction
  | cons c inner =>
    rw [hrest] at h hpass
    exact Nat.lt_of_le_of_lt (leaves_bracketStep_cons members around c inner _ _ h).length_le hpass

/-- A set that has been opened is closed in front of the closing parenthesis or not at all. -/
theorem carries_readBracket {fuel fuel' : Nat} (members : Members) (around : List Around)
    (h : Joined t u) (hfuel : t.length < fuel) (hfuel' : u.length < fuel') :
    Carries Never (readBracket flags fuel members around t)
      (readBracket flags fuel' members around u) := by
  induction fuel generalizing members around t u fuel' with
  | zero => exact absurd hfuel (Nat.not_lt_zero _)
  | succ fuel ih =>
    obtain ⟨fuel', rfl⟩ : ∃ n, fuel' = n + 1 :=
      Nat.exists_eq_add_one_of_ne_zero (Nat.ne_zero_of_lt hfuel')
    rw [readBracket_succ, readBracket_succ]
    refine (carries_bracketStep members around (h.pass flags)).bind_lost ?_ ?_
    · intro next v v' hstep hstep' hj
      cases next with
      | inl result => exact carries_ok _ hj
      | inr state =>
        exact ih state.1 state.2 hj (Nat.lt_of_lt_of_le (length_lt_of_bracketStep hstep)
          (Nat.le_of_lt_succ hfuel)) (Nat.lt_of_lt_of_le (length_lt_of_bracketStep hstep')
          (Nat.le_of_lt_succ hfuel'))
    · rintro next rest result after ⟨hright, hnone⟩ hafter
      cases next with
      | inl result => contradiction
      | inr state => exact hnone (bracket_mem_of_readBracket hafter)

theorem leaves_readBracket (fuel : Nat) (members : Members) (around : List Around) (t : Text) :
    Leaves t (readBracket flags fuel members around t) := by
  induction fuel generalizing members around t with
  | zero => exact leaves_error _
  | succ fuel ih =>
    rw [readBracket_succ]
    refine (leaves_bracketStep members around _).bind (pass_suffix flags t) fun next rest => ?_
    cases next with
    | inl result => exact leaves_ok List.suffix_rfl
    | inr state => exact ih state.1 state.2 rest

theorem readSet_eq (flags : Flags) (t : Text) :
    readSet flags t = (readOpening flags t).bind fun r =>
      readBracket flags (r.2.length + 1) r.1.1 [.bracket {} r.1.2] r.2 := by
  rw [readSet]
  cases readOpening flags t <;> rfl

theorem leaves_readSet (flags : Flags) (t : Text) : Leaves t (readSet flags t) := by
  rw [readSet_eq]
  exact (leaves_readOpening flags t).bind List.suffix_rfl fun _ _ => leaves_readBracket _ _ _ _

theorem carries_readSet (h : Joined t u) :
    Carries Never (readSet flags t) (readSet flags u) := by
  rw [readSet_eq, readSet_eq]
  refine (carries_readOpening h).bind_lost ?_ ?_
  · intro opening v v' _ _ hj
    exact carries_readBracket _ _ hj (Nat.lt_succ_self _) (Nat.lt_succ_self _)
  · intro opening rest result after hnone hafter
    exact hnone (bracket_mem_of_readBracket hafter)

end Brackets

end Infill.Pattern
