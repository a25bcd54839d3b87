import Infill.Pattern.Parser
import Mathlib.Data.List.Infix

/-!
# Reading in front of a closing parenthesis

The readers of patterns look ahead, so what stands behind a pattern could change how it is read.  Here
`)$` stands behind it.  A reader that succeeds without it comes to the same result and leaves it, unless
a comment takes it; a reader that fails without it fails, or takes the parenthesis (`Carries`).
-/

namespace Infill.Pattern

open Infill.Unicode (CharSet)

variable {α β : Type} {flags : Flags} {t u rest : Text}

section Frames

/-- What closes a group at the end of a pattern. -/
def closing : Text := [')', '$']

theorem closing_ne_cons {c : Char} (hc : c ≠ ')') (rest : Text) : closing ≠ c :: rest :=
  fun h => hc (List.cons.inj h).1.symm

/-- A rest of a pattern, and the rest with the closing parenthesis behind it or taken away by a
comment. -/
def Joined (t u : Text) : Prop := u = t ∨ u = t ++ closing

theorem Joined.refl (t : Text) : Joined t t := Or.inl rfl

theorem joined_append (t : Text) : Joined t (t ++ closing) := Or.inr rfl

theorem Joined.nil (h : Joined [] u) : u = [] ∨ u = closing := h

theorem Joined.cons {c : Char} (h : Joined (c :: t) u) : ∃ v, u = c :: v ∧ Joined t v := by
  rcases h with rfl | rfl
  · exact ⟨t, rfl, .refl t⟩
  · exact ⟨t ++ closing, rfl, joined_append t⟩

/-- The closing parenthesis does not pass for another character. -/
theorem Joined.ne_cons {c : Char} (h : Joined t u) (hc : c ≠ ')') (ht : ∀ rest, t ≠ c :: rest) :
    ∀ rest, u ≠ c :: rest := by
  rintro rest rfl
  rcases h with rfl | h
  · exact ht rest rfl
  · cases t with
    | nil => exact hc (List.cons.inj h).1
    | cons b t => exact ht t (congrArg (· :: t) (List.cons.inj h).1.symm)

/-- A character other than the closing parenthesis is the next one on both sides or on none. -/
theorem Joined.next {c : Char} (h : Joined t u) (hc : c ≠ ')') :
    (∃ rest rest', t = c :: rest ∧ u = c :: rest' ∧ Joined rest rest') ∨
      (∀ rest, t ≠ c :: rest) ∧ ∀ rest, u ≠ c :: rest := by
  by_cases hnext : ∃ rest, t = c :: rest
  · obtain ⟨rest, rfl⟩ := hnext
    obtain ⟨rest', hrest', hj⟩ := h.cons
    exact Or.inl ⟨rest, rest', rfl, hrest', hj⟩
  · have hnone := not_exists.mp hnext
    exact Or.inr ⟨hnone, h.ne_cons hc hnone⟩

theorem Joined.of_cons (c : Char) (h : Joined t u) : Joined (c :: t) (c :: u) := by
  rcases h with rfl | rfl
  · exact .refl _
  · exact joined_append (c :: t)

/-- What a reader leaves is the end of what it has been given. -/
def Leaves (t : Text) (r : Read α) : Prop := ∀ x rest, r = .ok (x, rest) → rest <:+ t

theorem leaves_ok {x : α} (h : rest <:+ t) : Leaves t (.ok (x, rest)) := by
  rintro y rest' ⟨⟩
  exact h

theorem leaves_error (fault : Fault) : Leaves t (.error fault : Read α) := by
  rintro x rest ⟨⟩

theorem Leaves.mono {r : Read α} (h : Leaves t r) (ht : t <:+ u) : Leaves u r :=
  fun x rest hr => (h x rest hr).trans ht

theorem Leaves.bind {r : Read α} {g : α × Text → Read β} (h : Leaves t r) (ht : t <:+ u)
    (hg : ∀ x rest, Leaves rest (g (x, rest))) : Leaves u (Except.bind r g) := by
  cases r with
  | error fault => exact leaves_error fault
  | ok p =>
    obtain ⟨x, rest⟩ := p
    exact (hg x rest).mono ((h x rest rfl).trans ht)

theorem leaves_bind_except {r : Except Fault α} {g : α → Read β} (hg : ∀ x, Leaves t (g x)) :
    Leaves t (Except.bind r g) := by
  cases r with
  | error fault => exact leaves_error fault
  | ok x => exact hg x

theorem exists_of_bind {r : Except Fault α} {g : α → Except Fault β} {y : β}
    (h : Except.bind r g = .ok y) : ∃ x, r = .ok x ∧ g x = .ok y := by
  cases r with
  | error fault => contradiction
  | ok x => exact ⟨x, rfl, h⟩

/-- What is left after the closing parenthesis has been taken. -/
def Lost (_ : α) (rest : Text) : Prop := rest <:+ ['$']

theorem lost_of_leaves {r : Read α} {x : α} (h : Leaves t r) (ht : t <:+ ['$'])
    (hr : r = .ok (x, rest)) : Lost x rest :=
  (h x rest hr).trans ht

/-- The results of a reader on a text alone and on the joined text: the same with joined rests, or
failure, after which the joined text gives nothing or a rest that is `lost`. -/
structure Carries (lost : α → Text → Prop) (alone joined : Read α) : Prop where
  ok : ∀ {x rest}, alone = .ok (x, rest) → ∃ u, joined = .ok (x, u) ∧ Joined rest u
  error : ∀ {fault x u}, alone = .error fault → joined = .ok (x, u) → lost x u

variable {lost : α → Text → Prop} {lost' : β → Text → Prop}

theorem Carries.refl (r : Read α) : Carries lost r r where
  ok := fun h => ⟨_, h, .refl _⟩
  error := by
    rintro fault x u h h'
    rw [h] at h'
    contradiction

theorem carries_ok (x : α) (h : Joined t u) : Carries lost (.ok (x, t)) (.ok (x, u)) where
  ok := by
    rintro _ _ ⟨⟩
    exact ⟨u, rfl, h⟩
  error := by
    rintro _ _ _ ⟨⟩

theorem carries_error {fault : Fault} {joined : Read α}
    (h : ∀ x u, joined = .ok (x, u) → lost x u) : Carries lost (.error fault) joined where
  ok := by
    rintro _ _ ⟨⟩
  error := fun _ h' => h _ _ h'

theorem carries_errors (fault fault' : Fault) :
    Carries lost (.error fault : Read α) (.error fault') :=
  carries_error (by rintro _ _ ⟨⟩)

theorem Carries.weaken {lost' : α → Text → Prop} {alone joined : Read α} (h : Carries lost alone joined)
    (hlost : ∀ x rest, lost x rest → lost' x rest) : Carries lost' alone joined where
  ok := h.ok
  error := fun halone hjoined => hlost _ _ (h.error halone hjoined)

theorem Carries.bind_lost {alone joined : Read α} {g g' : α × Text → Read β}
    (h : Carries lost alone joined)
    (hg : ∀ x t u, alone = .ok (x, t) → joined = .ok (x, u) → Joined t u →
      Carries lost' (g (x, t)) (g' (x, u)))
    (hlost : ∀ x u y v, lost x u → g' (x, u) = .ok (y, v) → lost' y v) :
    Carries lost' (Except.bind alone g) (Except.bind joined g') := by
  cases halone : alone with
  | ok p =>
    obtain ⟨x, t⟩ := p
    obtain ⟨u, rfl, hj⟩ := h.ok halone
    exact hg x t u halone rfl hj
  | error fault =>
    refine carries_error fun y v hv => ?_
    obtain ⟨⟨x, u⟩, hjoined, hv⟩ := exists_of_bind hv
    exact hlost x u y v (h.error halone hjoined) hv

/-- Two readers one after the other. -/
theorem Carries.bind {alone joined : Read α} {g : α × Text → Read β} (h : Carries Lost alone joined)
    (hg : ∀ x t u, alone = .ok (x, t) → Joined t u → Carries Lost (g (x, t)) (g (x, u)))
    (hleaves : ∀ x u, Leaves u (g (x, u))) : Carries Lost (Except.bind alone g) (Except.bind joined g) :=
  h.bind_lost (fun x t u halone _ => hg x t u halone)
    fun x u _ _ hlost hv => lost_of_leaves (hleaves x u) hlost hv

/-- What is left by a reader that fails in front of the closing parenthesis where it fails without
it. -/
def Never (_ : α) (_ : Text) : Prop := False

theorem Carries.bind_never {alone joined : Read α} {g g' : α × Text → Read β}
    (h : Carries Never alone joined)
    (hg : ∀ x t u, Joined t u → Carries lost' (g (x, t)) (g' (x, u))) :
    Carries lost' (Except.bind alone g) (Except.bind joined g') :=
  h.bind_lost (fun x t u _ _ => hg x t u) fun _ _ _ _ hnever _ => False.elim hnever

theorem carries_bind_except {r : Except Fault α} {g g' : α → Read β}
    (hg : ∀ x, Carries lost' (g x) (g' x)) : Carries lost' (Except.bind r g) (Except.bind r g') := by
  cases r with
  | error fault => exact carries_errors fault fault
  | ok x => exact hg x

end Frames

section Blanks

theorem dropBlanks_suffix (inComment : Bool) (t : Text) : dropBlanks inComment t <:+ t := by
  induction t generalizing inComment with
  | nil => cases inComment <;> exact List.suffix_rfl
  | cons c t ih =>
    have hcons : ∀ b, dropBlanks b t <:+ c :: t := fun b => (ih b).trans (List.suffix_cons c t)
    cases inComment with
    | true => exact hcons _
    | false =>
      simp only [dropBlanks]
      split_ifs
      · exact hcons _
      · exact hcons _
      · exact List.suffix_rfl

theorem pass_suffix (flags : Flags) (t : Text) : flags.pass t <:+ t := by
  rw [Flags.pass]
  split
  · exact dropBlanks_suffix false t
  · exact List.suffix_rfl

theorem joined_dropBlanks (inComment : Bool) (t : Text) :
    Joined (dropBlanks inComment t) (dropBlanks inComment (t ++ closing)) := by
  induction t generalizing inComment with
  | nil =>
    cases inComment with
    | true => exact Or.inl (by decide)
    | false => exact Or.inr (by decide)
  | cons c t ih =>
    cases inComment with
    | true => exact ih _
    | false =>
      simp only [List.cons_append, dropBlanks]
      split_ifs
      · exact ih _
      · exact ih _
      · exact joined_append (c :: t)

theorem Joined.pass (h : Joined t u) (flags : Flags) : Joined (flags.pass t) (flags.pass u) := by
  rcases h with rfl | rfl
  · exact .refl _
  · simp only [Flags.pass]
    split
    · exact joined_dropBlanks false t
    · exact joined_append t

theorem Joined.trimStart (h : Joined t u) : Joined (Text.trimStart t) (Text.trimStart u) := by
  rcases h with rfl | rfl
  · exact .refl _
  · refine Or.inr ?_
    have hkeeps : closing.dropWhile Text.isBlank = closing := by decide
    rw [Text.trimStart, Text.trimStart, List.dropWhile_append, hkeeps]
    split
    · next hnil => rw [List.isEmpty_iff.mp hnil, List.nil_append]
    · rfl

end Blanks

section Runs

/-- The characters at the start that a test accepts, between which blanks may pass. -/
def takePassing (accepts : Char → Bool) (flags : Flags) : (fuel : Nat) → Text → Text × Text
  | 0, t => ([], t)
  | _ + 1, [] => ([], [])
  | fuel + 1, c :: rest =>
    if accepts c then
      (c :: (takePassing accepts flags fuel (flags.pass rest)).1,
        (takePassing accepts flags fuel (flags.pass rest)).2)
    else ([], c :: rest)

theorem digitsOf_eq (flags : Flags) (fuel : Nat) (t : Text) :
    digitsOf flags fuel t = takePassing Text.isDigit flags fuel t := by
  induction fuel generalizing t with
  | zero => rfl
  | succ fuel ih =>
    cases t with
    | nil => rfl
    | cons c rest => simp only [digitsOf, takePassing, ih]

theorem lettersOf_eq (flags : Flags) (fuel : Nat) (t : Text) :
    lettersOf flags fuel t = takePassing (fun c => Text.isLetter c || c == '-') flags fuel t := by
  induction fuel generalizing t with
  | zero => rfl
  | succ fuel ih =>
    cases t with
    | nil => rfl
    | cons c rest => simp only [lettersOf, takePassing, ih]

theorem takePassing_suffix (accepts : Char → Bool) (flags : Flags) (fuel : Nat) (t : Text) :
    (takePassing accepts flags fuel t).2 <:+ t := by
  induction fuel generalizing t with
  | zero => exact List.suffix_rfl
  | succ fuel ih =>
    cases t with
    | nil => exact List.suffix_rfl
    | cons c rest =>
      rw [takePassing]
      split
      · exact ((ih _).trans (pass_suffix flags rest)).trans (List.suffix_cons c rest)
      · exact List.suffix_rfl

theorem takePassing_nil (accepts : Char → Bool) (flags : Flags) (fuel : Nat) :
    takePassing accepts flags fuel [] = ([], []) := by
  cases fuel <;> rfl

theorem takePassing_cons_of_refused {accepts : Char → Bool} {c : Char} (h : accepts c = false)
    (flags : Flags) (fuel : Nat) (t : Text) :
    takePassing accepts flags fuel (c :: t) = ([], c :: t) := by
  cases fuel with
  | zero => rfl
  | succ fuel => simp only [takePassing, h, Bool.false_eq_true, if_false]

theorem takePassing_joined_nil {accepts : Char → Bool} (haccepts : accepts ')' = false)
    (fuel fuel' : Nat) (h : Joined [] u) :
    (takePassing accepts flags fuel []).1 = (takePassing accepts flags fuel' u).1 ∧
      Joined (takePassing accepts flags fuel []).2 (takePassing accepts flags fuel' u).2 := by
  rcases h.nil with rfl | rfl
  · simp only [takePassing_nil]
    exact ⟨trivial, .refl []⟩
  · simp only [takePassing_nil, closing, takePassing_cons_of_refused haccepts]
    exact ⟨trivial, joined_append []⟩

/-- A run ends in front of the closing parenthesis. -/
theorem takePassing_joined (accepts : Char → Bool) (haccepts : accepts ')' = false) (flags : Flags)
    {fuel fuel' : Nat} (h : Joined t u) (hfuel : t.length ≤ fuel) (hfuel' : u.length ≤ fuel') :
    (takePassing accepts flags fuel t).1 = (takePassing accepts flags fuel' u).1 ∧
      Joined (takePassing accepts flags fuel t).2 (takePassing accepts flags fuel' u).2 := by
  induction fuel generalizing t u fuel' with
  | zero =>
    obtain rfl := List.length_eq_zero_iff.mp (Nat.le_zero.mp hfuel)
    exact takePassing_joined_nil haccepts 0 fuel' h
  | succ fuel ih =>
    cases t with
    | nil => exact takePassing_joined_nil haccepts (fuel + 1) fuel' h
    | cons c t =>
      obtain ⟨v, rfl, hv⟩ := h.cons
      obtain ⟨fuel', rfl⟩ : ∃ n, fuel' = n + 1 :=
        Nat.exists_eq_add_one_of_ne_zero (by rintro rfl; simp at hfuel')
      have hrest := ih (hv.pass flags)
        ((pass_suffix flags t).length_le.trans (Nat.le_of_succ_le_succ hfuel))
        ((pass_suffix flags v).length_le.trans (Nat.le_of_succ_le_succ hfuel'))
      simp only [takePassing]
      split
      · exact ⟨congrArg (c :: ·) hrest.1, hrest.2⟩
      · exact ⟨rfl, h⟩

end Runs

section Numbers

theorem leaves_readCount (flags : Flags) (t : Text) : Leaves t (readCount flags t) := by
  rcases hrun : takePassing Text.isDigit flags t.length (Text.trimStart t) with ⟨digits, after⟩
  have hafter : after <:+ Text.trimStart t := by
    have := takePassing_suffix Text.isDigit flags t.length (Text.trimStart t)
    rwa [hrun] at this
  have hrest : flags.pass (Text.trimStart after) <:+ t :=
    (((pass_suffix _ _).trans (List.dropWhile_suffix _)).trans hafter).trans (List.dropWhile_suffix _)
  simp only [readCount, digitsOf_eq, hrun]
  split
  · exact leaves_ok hrest
  · split
    · split
      · exact leaves_ok hrest
      · exact leaves_error _
    · exact leaves_error _

theorem carries_readCount (h : Joined t u) :
    Carries lost (readCount flags t) (readCount flags u) := by
  have hlength : ∀ t : Text, (Text.trimStart t).length ≤ t.length :=
    fun t => (List.dropWhile_suffix _).length_le
  obtain ⟨hdigits, hafter⟩ := takePassing_joined Text.isDigit (by decide) flags h.trimStart
    (hlength t) (hlength u)
  rcases hrun : takePassing Text.isDigit flags t.length (Text.trimStart t) with ⟨digits, after⟩
  rcases hrun' : takePassing Text.isDigit flags u.length (Text.trimStart u) with ⟨digits', after'⟩
  rw [hrun, hrun'] at hdigits hafter
  obtain rfl : digits = digits' := hdigits
  have hrest := hafter.trimStart.pass flags
  simp only [readCount, digitsOf_eq, hrun, hrun']
  split
  · exact carries_ok none hrest
  · cases Text.natOfDigits? 10 digits with
    | none => exact carries_errors _ _
    | some n =>
      dsimp only
      split
      · exact carries_ok (some n) hrest
      · exact carries_errors _ _

theorem readHexDigits_succ (flags : Flags) (count : Nat) (c : Char) (t : Text) :
    readHexDigits flags (count + 1) (c :: t) =
      if (Text.digitValue? 16 c).isNone then .error .hexadecimal
      else (readHexDigits flags count (flags.pass t)).bind fun r => .ok (c :: r.1, r.2) := by
  rw [readHexDigits]
  split
  · rfl
  · cases readHexDigits flags count (flags.pass t) <;> rfl

theorem leaves_readHexDigits (flags : Flags) (count : Nat) (t : Text) :
    Leaves t (readHexDigits flags count t) := by
  induction count generalizing t with
  | zero => exact leaves_ok List.suffix_rfl
  | succ count ih =>
    cases t with
    | nil => exact leaves_error _
    | cons c t =>
      rw [readHexDigits_succ]
      split
      · exact leaves_error _
      · exact (ih _).bind ((pass_suffix flags t).trans (List.suffix_cons c t))
          fun _ _ => leaves_ok List.suffix_rfl

theorem carries_readHexDigits (count : Nat) (h : Joined t u) :
    Carries Lost (readHexDigits flags count t) (readHexDigits flags count u) := by
  induction count generalizing t u with
  | zero => exact carries_ok [] h
  | succ count ih =>
    cases t with
    | nil =>
      rcases h.nil with rfl | rfl
      · exact .refl _
      · exact carries_errors .escape .hexadecimal
    | cons c t =>
      obtain ⟨v, rfl, hv⟩ := h.cons
      rw [readHexDigits_succ, readHexDigits_succ]
      split
      · exact carries_errors _ _
      · exact (ih (hv.pass flags)).bind (fun _ _ _ _ hj => carries_ok _ hj)
          fun _ _ => leaves_ok List.suffix_rfl

theorem readBraced_succ (flags : Flags) (fuel : Nat) (c : Char) (t : Text) :
    readBraced flags (fuel + 1) (c :: t) =
      if c = '}' then .ok ([], t)
      else (readBraced flags fuel (flags.pass t)).bind fun r => .ok (c :: r.1, r.2) := by
  rw [readBraced]
  simp only [beq_iff_eq]
  split
  · rfl
  · cases readBraced flags fuel (flags.pass t) <;> rfl

theorem leaves_readBraced (flags : Flags) (fuel : Nat) (t : Text) :
    Leaves t (readBraced flags fuel t) := by
  induction fuel generalizing t with
  | zero => exact leaves_error _
  | succ fuel ih =>
    cases t with
    | nil => exact leaves_error _
    | cons c t =>
      rw [readBraced_succ]
      split
      · exact leaves_ok (List.suffix_cons c t)
      · exact (ih _).bind ((pass_suffix flags t).trans (List.suffix_cons c t))
          fun _ _ => leaves_ok List.suffix_rfl

/-- What stands in braces has a closing brace. -/
theorem brace_mem_of_readBraced {fuel : Nat} {inner : Text}
    (h : readBraced flags fuel t = .ok (inner, rest)) : '}' ∈ t := by
  induction fuel generalizing t inner rest with
  | zero => contradiction
  | succ fuel ih =>
    cases t with
    | nil => contradiction
    | cons c t =>
      rw [readBraced_succ] at h
      split at h
      · next hc => exact hc ▸ List.mem_cons_self
      · obtain ⟨p, hrest, -⟩ := exists_of_bind h
        exact List.mem_cons_of_mem c ((pass_suffix flags t).subset (ih hrest))

theorem carries_readBraced {fuel fuel' : Nat} (h : Joined t u) (hfuel : t.length < fuel)
    (hfuel' : u.length < fuel') :
    Carries Lost (readBraced flags fuel t) (readBraced flags fuel' u) := by
  induction fuel generalizing t u fuel' with
  | zero => exact absurd hfuel (Nat.not_lt_zero _)
  | succ fuel ih =>
    cases t with
    | nil =>
      have hnone : '}' ∉ u := by rcases h.nil with rfl | rfl <;> decide
      exact carries_error fun x v hv => absurd (brace_mem_of_readBraced hv) hnone
    | cons c t =>
      obtain ⟨v, rfl, hv⟩ := h.cons
      obtain ⟨fuel', rfl⟩ : ∃ n, fuel' = n + 1 :=
        Nat.exists_eq_add_one_of_ne_zero (by rintro rfl; simp at hfuel')
      have hrest := ih (hv.pass flags)
        ((pass_suffix flags t).length_le.trans_lt (Nat.lt_of_succ_lt_succ hfuel))
        ((pass_suffix flags v).length_le.trans_lt (Nat.lt_of_succ_lt_succ hfuel'))
      rw [readBraced_succ, readBraced_succ]
      split
      · exact carries_ok [] hv
      · exact hrest.bind (fun _ _ _ _ hj => carries_ok _ hj) fun _ _ => leaves_ok List.suffix_rfl

end Numbers

section Escapes

/-- The character with a hexadecimal number, and the blanks behind it passed. -/
def hexLiteral (flags : Flags) (byte : Bool) (r : Text × Text) : Read Primitive :=
  (charOfHex r.1).bind fun c => .ok (.literal c byte, flags.pass r.2)

theorem leaves_hexLiteral (byte : Bool) (digits t : Text) :
    Leaves t (hexLiteral flags byte (digits, t)) :=
  leaves_bind_except fun _ => leaves_ok (pass_suffix flags t)

theorem carries_hexLiteral (byte : Bool) (digits : Text) (h : Joined t u) :
    Carries lost (hexLiteral flags byte (digits, t)) (hexLiteral flags byte (digits, u)) :=
  carries_bind_except fun _ => carries_ok _ (h.pass flags)

theorem readHex_brace (count : Nat) {inner : Text} (h : flags.pass t = '{' :: inner) :
    readHex flags count t =
      (readBraced flags (inner.length + 1) (flags.pass inner)).bind (hexLiteral flags false) := by
  rw [readHex]
  split
  · next inner' hinner' =>
    obtain rfl : inner = inner' := (List.cons.inj (h.symm.trans hinner')).2
    cases readBraced flags (inner.length + 1) (flags.pass inner) with
    | error fault => rfl
    | ok r =>
      obtain ⟨digits, after⟩ := r
      dsimp only [Except.bind, hexLiteral]
      cases charOfHex digits <;> rfl
  · next hnone => exact absurd h (hnone inner)

theorem readHex_digits (count : Nat) (h : ∀ inner, flags.pass t ≠ '{' :: inner) :
    readHex flags count t =
      (readHexDigits flags count (flags.pass t)).bind (hexLiteral flags (count == 2)) := by
  rw [readHex]
  split
  · next inner hbrace => exact absurd hbrace (h inner)
  · cases readHexDigits flags count (flags.pass t) with
    | error fault => rfl
    | ok r =>
      obtain ⟨digits, after⟩ := r
      simp only [Except.bind, hexLiteral]
      cases charOfHex digits <;> rfl

theorem leaves_readHex (flags : Flags) (count : Nat) (t : Text) :
    Leaves t (readHex flags count t) := by
  have hpass := pass_suffix flags t
  by_cases h : ∃ inner, flags.pass t = '{' :: inner
  · obtain ⟨inner, hinner⟩ := h
    rw [hinner] at hpass
    rw [readHex_brace count hinner]
    exact (leaves_readBraced _ _ _).bind
      ((pass_suffix flags inner).trans ((List.suffix_cons _ inner).trans hpass))
      fun _ _ => leaves_hexLiteral _ _ _
  · rw [readHex_digits count (not_exists.mp h)]
    exact (leaves_readHexDigits _ _ _).bind hpass fun _ _ => leaves_hexLiteral _ _ _

theorem carries_readHex (count : Nat) (h : Joined t u) :
    Carries Lost (readHex flags count t) (readHex flags count u) := by
  have hpass := h.pass flags
  rcases hpass.next (show '{' ≠ ')' by decide) with ⟨inner, inner', hinner, hinner', hj⟩ |
    ⟨hnone, hnone'⟩
  · rw [readHex_brace count hinner, readHex_brace count hinner']
    exact (carries_readBraced (hj.pass flags)
      (Nat.lt_succ_of_le (pass_suffix flags inner).length_le)
      (Nat.lt_succ_of_le (pass_suffix flags inner').length_le)).bind
      (fun _ _ _ _ hj => carries_hexLiteral _ _ hj) fun _ _ => leaves_hexLiteral _ _ _
  · rw [readHex_digits count hnone, readHex_digits count hnone']
    exact (carries_readHexDigits count hpass).bind
      (fun _ _ _ _ hj => carries_hexLiteral _ _ hj) fun _ _ => leaves_hexLiteral _ _ _

/-- The members of a property that has been named, with what stands behind the name. -/
def namedMembers (flags : Flags) (negated : Bool) (r : Text × Text) : Read Primitive :=
  (propertyMembers flags (negated != (bracedProperty? r.1).2) (bracedProperty? r.1).1).bind
    fun s => .ok (.members s, r.2)

theorem readProperty_nil (negated : Bool) (h : flags.pass t = []) :
    readProperty flags negated t = .error .escape := by
  rw [readProperty, h]

theorem readProperty_brace (negated : Bool) {inner : Text} (h : flags.pass t = '{' :: inner) :
    readProperty flags negated t =
      (readBraced flags (inner.length + 1) (flags.pass inner)).bind
        (namedMembers flags negated) := by
  rw [readProperty]
  split
  · next hnil => exact absurd (h.symm.trans hnil) (List.cons_ne_nil _ _)
  · next inner' hinner' =>
    obtain rfl : inner = inner' := (List.cons.inj (h.symm.trans hinner')).2
    cases readBraced flags (inner.length + 1) (flags.pass inner) with
    | error fault => rfl
    | ok r =>
      obtain ⟨name, after⟩ := r
      dsimp only [Except.bind, namedMembers]
      cases propertyMembers flags (negated != (bracedProperty? name).2) (bracedProperty? name).1 <;>
        rfl
  · next c rest hnone hcons =>
    exact absurd (List.cons.inj (hcons.symm.trans h)).1 hnone

theorem readProperty_letter (negated : Bool) {c : Char} (hc : c ≠ '{')
    (h : flags.pass t = c :: rest) :
    readProperty flags negated t =
      if c = '\\' then .error .property
      else (propertyMembers flags negated (Flags.propertySet? (looseName [c]))).bind
        fun s => .ok (.members s, flags.pass rest) := by
  rw [readProperty]
  split
  · next hnil => exact absurd (h.symm.trans hnil) (List.cons_ne_nil _ _)
  · next hbrace => exact absurd (List.cons.inj (h.symm.trans hbrace)).1 hc
  · next hcons =>
    obtain ⟨rfl, rfl⟩ := List.cons.inj (h.symm.trans hcons)
    simp only [beq_iff_eq]
    split
    · rfl
    · cases propertyMembers flags negated (Flags.propertySet? (looseName [c])) <;> rfl

theorem leaves_readProperty (flags : Flags) (negated : Bool) (t : Text) :
    Leaves t (readProperty flags negated t) := by
  have hpass := pass_suffix flags t
  cases hrest : flags.pass t with
  | nil =>
    rw [readProperty_nil negated hrest]
    exact leaves_error _
  | cons c rest =>
    rw [hrest] at hpass
    have htail := (pass_suffix flags rest).trans ((List.suffix_cons c rest).trans hpass)
    by_cases hc : c = '{'
    · subst hc
      rw [readProperty_brace negated hrest]
      exact (leaves_readBraced _ _ _).bind htail
        fun _ _ => leaves_bind_except fun _ => leaves_ok List.suffix_rfl
    · rw [readProperty_letter negated hc hrest]
      split
      · exact leaves_error _
      · exact leaves_bind_except fun _ => leaves_ok htail

theorem carries_readProperty (negated : Bool) (h : Joined t u) :
    Carries Lost (readProperty flags negated t) (readProperty flags negated u) := by
  have hpass := h.pass flags
  cases hrest : flags.pass t with
  | nil =>
    rw [hrest] at hpass
    rw [readProperty_nil negated hrest]
    rcases hpass.nil with hnil | hclosing
    · rw [readProperty_nil negated hnil]
      exact carries_errors _ _
    · -- The parenthesis is taken for the name of a property.
      rw [readProperty_letter negated (by decide) hclosing, if_neg (by decide)]
      refine carries_error fun x v hv => lost_of_leaves ?_ (pass_suffix flags ['$']) hv
      exact leaves_bind_except fun _ => leaves_ok List.suffix_rfl
  | cons c rest =>
    rw [hrest] at hpass
    obtain ⟨rest', hrest', hj⟩ := hpass.cons
    by_cases hc : c = '{'
    · subst hc
      rw [readProperty_brace negated hrest, readProperty_brace negated hrest']
      exact (carries_readBraced (hj.pass flags)
        (Nat.lt_succ_of_le (pass_suffix flags rest).length_le)
        (Nat.lt_succ_of_le (pass_suffix flags rest').length_le)).bind
        (fun _ _ _ _ hj => carries_bind_except fun _ => carries_ok _ hj)
        fun _ _ => leaves_bind_except fun _ => leaves_ok List.suffix_rfl
    · rw [readProperty_letter negated hc hrest, readProperty_letter negated hc hrest']
      split
      · exact carries_errors _ _
      · exact carries_bind_except fun _ => carries_ok _ (hj.pass flags)

/-- The boundary that has been named in braces. -/
def namedBoundary (flags : Flags) (name : Text) : Except Fault Look :=
  if String.ofList name = "start" then .ok (.wordStart flags.unicode)
  else if String.ofList name = "end" then .ok (.wordStop flags.unicode)
  else if String.ofList name = "start-half" then .ok (.wordStartHalf flags.unicode)
  else if String.ofList name = "end-half" then .ok (.wordStopHalf flags.unicode)
  else .error .boundary

/-- The boundary whose name has been read, if a brace closes it. -/
def boundaryAt (flags : Flags) (run : Text × Text) : Read Look :=
  if run.2.head? = some '}' then (namedBoundary flags run.1).bind fun l => .ok (l, run.2.tail)
  else .error .boundary

/-- Whether a character can stand in the name of a boundary. -/
def isBoundaryChar (c : Char) : Bool := Text.isLetter c || c == '-'

theorem readBoundary_plain (h : ∀ inner, t ≠ '{' :: inner) :
    readBoundary flags t = .ok (.boundary flags.unicode, t) := by
  rw [readBoundary]
  exact h

theorem readBoundary_open {inner : Text} (h : flags.pass inner = []) :
    readBoundary flags ('{' :: inner) = .error .boundary := by
  simp only [readBoundary, h]

theorem readBoundary_unnamed {inner : Text} {c : Char} (hc : isBoundaryChar c = false)
    (h : flags.pass inner = c :: rest) :
    readBoundary flags ('{' :: inner) = .ok (.boundary flags.unicode, '{' :: inner) := by
  rw [isBoundaryChar] at hc
  simp [readBoundary, h, hc]

theorem readBoundary_named {inner : Text} {c : Char} (hc : isBoundaryChar c = true)
    (h : flags.pass inner = c :: rest) :
    readBoundary flags ('{' :: inner) =
      boundaryAt flags (takePassing isBoundaryChar flags (rest.length + 1) (c :: rest)) := by
  have hletters : lettersOf flags (rest.length + 1) (c :: rest) =
      takePassing isBoundaryChar flags (rest.length + 1) (c :: rest) := lettersOf_eq _ _ _
  rcases hrun : takePassing isBoundaryChar flags (rest.length + 1) (c :: rest) with ⟨name, after⟩
  rw [hrun] at hletters
  rw [isBoundaryChar] at hc
  simp only [readBoundary, h, hc, Bool.not_true, Bool.false_eq_true, if_false, hletters, boundaryAt]
  split
  · rw [if_pos (by simp)]
    split <;> simp_all [namedBoundary, Except.bind]
  · next hnone =>
    rw [if_neg]
    intro hhead
    obtain ⟨after, rfl⟩ := List.head?_eq_some_iff.mp hhead
    exact hnone after rfl

theorem boundaryAt_brace (name t : Text) :
    boundaryAt flags (name, '}' :: t) = (namedBoundary flags name).bind fun l => .ok (l, t) := rfl

theorem boundaryAt_other (name : Text) {c : Char} (hc : c ≠ '}') (t : Text) :
    boundaryAt flags (name, c :: t) = .error .boundary :=
  if_neg fun h => hc (Option.some.inj h)

theorem leaves_boundaryAt (name t : Text) : Leaves t (boundaryAt flags (name, t)) := by
  rw [boundaryAt]
  split
  · exact leaves_bind_except fun _ => leaves_ok (List.tail_suffix t)
  · exact leaves_error _

theorem carries_boundaryAt (name : Text) (h : Joined t u) :
    Carries lost (boundaryAt flags (name, t)) (boundaryAt flags (name, u)) := by
  cases t with
  | nil =>
    rcases h.nil with rfl | rfl
    · exact .refl _
    · exact carries_errors _ _
  | cons c t =>
    obtain ⟨v, rfl, hv⟩ := h.cons
    by_cases hc : c = '}'
    · subst hc
      rw [boundaryAt_brace, boundaryAt_brace]
      exact carries_bind_except fun _ => carries_ok _ hv
    · rw [boundaryAt_other name hc, boundaryAt_other name hc]
      exact carries_errors _ _

theorem leaves_readBoundary (flags : Flags) (t : Text) : Leaves t (readBoundary flags t) := by
  by_cases hbrace : ∃ inner, t = '{' :: inner
  · obtain ⟨inner, rfl⟩ := hbrace
    have hpass := (pass_suffix flags inner).trans (List.suffix_cons '{' inner)
    cases hrest : flags.pass inner with
    | nil =>
      rw [readBoundary_open hrest]
      exact leaves_error _
    | cons c rest =>
      rw [hrest] at hpass
      cases hc : isBoundaryChar c with
      | false =>
        rw [readBoundary_unnamed hc hrest]
        exact leaves_ok List.suffix_rfl
      | true =>
        have hafter := takePassing_suffix isBoundaryChar flags (rest.length + 1) (c :: rest)
        rw [readBoundary_named hc hrest]
        exact (leaves_boundaryAt _ _).mono (hafter.trans hpass)
  · rw [readBoundary_plain (not_exists.mp hbrace)]
    exact leaves_ok List.suffix_rfl

/-- A brace that opens neither the name of a boundary nor counts: nothing but blanks stands between it
and the end or the closing parenthesis. -/
def Unbraced (flags : Flags) (rest : Text) : Prop :=
  ∃ inner, rest = '{' :: inner ∧ (flags.pass inner = [] ∨ flags.pass inner = closing)

theorem carries_readBoundary (h : Joined t u) :
    Carries (fun l rest => Lost l rest ∨ Unbraced flags rest) (readBoundary flags t)
      (readBoundary flags u) := by
  rcases h.next (show '{' ≠ ')' by decide) with ⟨inner, inner', rfl, rfl, hj⟩ | ⟨hnone, hnone'⟩
  · have hpass := hj.pass flags
    cases hrest : flags.pass inner with
    | nil =>
      rw [hrest] at hpass
      rw [readBoundary_open hrest]
      rcases hpass.nil with hnil | hclosing
      · rw [readBoundary_open hnil]
        exact carries_errors _ _
      · rw [readBoundary_unnamed (by decide) hclosing]
        refine carries_error ?_
        rintro x v ⟨⟩
        exact Or.inr ⟨inner', rfl, Or.inr hclosing⟩
    | cons c rest =>
      rw [hrest] at hpass
      obtain ⟨rest', hrest', hj'⟩ := hpass.cons
      cases hc : isBoundaryChar c with
      | false =>
        rw [readBoundary_unnamed hc hrest, readBoundary_unnamed hc hrest']
        exact carries_ok _ h
      | true =>
        obtain ⟨hname, hafter⟩ := takePassing_joined isBoundaryChar (by decide) flags
          (hj'.of_cons c) (Nat.le_refl (rest.length + 1)) (Nat.le_refl (rest'.length + 1))
        rw [readBoundary_named hc hrest, readBoundary_named hc hrest']
        rcases hrun : takePassing isBoundaryChar flags (rest.length + 1) (c :: rest) with
          ⟨name, after⟩
        rcases hrun' : takePassing isBoundaryChar flags (rest'.length + 1) (c :: rest') with
          ⟨name', after'⟩
        rw [hrun, hrun'] at hname hafter
        obtain rfl : name = name' := hname
        exact carries_boundaryAt name hafter
  · rw [readBoundary_plain hnone, readBoundary_plain hnone']
    exact carries_ok _ h

/-- What an escape takes: a hexadecimal number, a property, a boundary, or nothing more. -/
inductive EscapeForm (flags : Flags) : (Text → Read Primitive) → Prop
  | hex (count : Nat) : EscapeForm flags (readHex flags count)
  | property (negated : Bool) : EscapeForm flags (readProperty flags negated)
  | boundary : EscapeForm flags fun t =>
      (readBoundary flags t).bind fun r => .ok (.assertion r.1, r.2)
  | single (p : Except Fault Primitive) : EscapeForm flags fun t => p.bind fun p => .ok (p, t)

/-- The form of an escape depends on its first character alone. -/
theorem escapeForm (flags : Flags) (c : Char) :
    EscapeForm flags fun t => readEscape flags (c :: t) := by
  simp only [readEscape]
  split
  · exact .hex 2
  · exact .hex 4
  · exact .hex 8
  · exact .property false
  · exact .property true
  · exact .single (.ok (.assertion .start))
  · exact .single (.ok (.assertion .stop))
  · exact .single (.ok (.assertion (.noBoundary flags.unicode)))
  · exact .single (.ok (.assertion (.wordStart flags.unicode)))
  · exact .single (.ok (.assertion (.wordStop flags.unicode)))
  · convert EscapeForm.boundary with t
    cases readBoundary flags t <;> rfl
  · split
    · exact .single (.error .backreference)
    split
    · exact .single (.ok (.members (flags.perlSet c)))
    split
    · cases flags.negate true (flags.perlSet (Text.lowerAscii c)) with
      | error fault => exact .single (.error fault)
      | ok s => exact .single (.ok (.members s))
    split
    · exact .single (.ok (.literal c false))
    split
    · next control _ => exact .single (.ok (.literal control false))
    · exact .single (.error .escape)

theorem EscapeForm.leaves {read : Text → Read Primitive} (h : EscapeForm flags read) (t : Text) :
    Leaves t (read t) := by
  cases h with
  | hex count => exact leaves_readHex flags count t
  | property negated => exact leaves_readProperty flags negated t
  | boundary =>
    exact (leaves_readBoundary flags t).bind List.suffix_rfl fun _ _ => leaves_ok List.suffix_rfl
  | single p => exact leaves_bind_except fun _ => leaves_ok List.suffix_rfl

theorem leaves_readEscape_cons (flags : Flags) (c : Char) (t : Text) :
    Leaves t (readEscape flags (c :: t)) :=
  (escapeForm flags c).leaves t

theorem leaves_readEscape (flags : Flags) (t : Text) : Leaves t (readEscape flags t) := by
  cases t with
  | nil => exact leaves_error .escape
  | cons c t => exact (leaves_readEscape_cons flags c t).mono (List.suffix_cons c t)

/-- What is left after a brace has been taken for no name of a boundary, besides what is `Lost`. -/
def BoundaryLost (flags : Flags) (p : Primitive) (rest : Text) : Prop :=
  Lost p rest ∨ (∃ l, p = .assertion l) ∧ Unbraced flags rest

theorem EscapeForm.carries {read : Text → Read Primitive} (h : EscapeForm flags read)
    (hj : Joined t u) : Carries (BoundaryLost flags) (read t) (read u) := by
  cases h with
  | hex count => exact (carries_readHex count hj).weaken fun _ _ => Or.inl
  | property negated => exact (carries_readProperty negated hj).weaken fun _ _ => Or.inl
  | boundary =>
    refine (carries_readBoundary hj).bind_lost (fun _ _ _ _ _ hj => carries_ok _ hj) ?_
    rintro l rest _ _ hlost ⟨⟩
    exact hlost.imp_right fun hunbraced => ⟨⟨l, rfl⟩, hunbraced⟩
  | single p => exact carries_bind_except fun _ => carries_ok _ hj

theorem carries_readEscape (h : Joined t u) :
    Carries (BoundaryLost flags) (readEscape flags t) (readEscape flags u) := by
  cases t with
  | nil =>
    rcases h.nil with rfl | rfl
    · exact .refl _
    · -- The escape takes the parenthesis.
      exact carries_error fun x v hv =>
        Or.inl (lost_of_leaves (leaves_readEscape_cons flags ')' ['$']) List.suffix_rfl hv)
  | cons c t =>
    obtain ⟨v, rfl, hv⟩ := h.cons
    exact (escapeForm flags c).carries hv

end Escapes

end Infill.Pattern
