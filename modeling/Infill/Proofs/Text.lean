import Infill.Text.Basic
import Infill.Text.Utf8
import Mathlib.Data.List.DropRight
import Mathlib.Data.List.TakeWhile

/-!
# Cutting and trimming texts

What the functions on texts do to a text that is written as a concatenation: leads, the first
occurrence of a separator, white space at the ends, and the number of bytes.
-/

namespace Infill

variable {α : Type}

theorem afterLead?_append [DecidableEq α] (lead l : List α) :
    afterLead? lead (lead ++ l) = some l := by
  induction lead with
  | nil => rfl
  | cons a lead ih => simp [afterLead?, ih]

theorem afterLead?_eq_some_iff [DecidableEq α] {lead l rest : List α} :
    afterLead? lead l = some rest ↔ l = lead ++ rest := by
  constructor
  · intro h
    induction lead generalizing l with
    | nil => simpa [afterLead?] using h
    | cons a lead ih =>
      cases l with
      | nil => simp [afterLead?] at h
      | cons b l =>
        by_cases hab : a = b
        · subst hab
          simp only [afterLead?, if_true] at h
          rw [ih h, List.cons_append]
        · simp [afterLead?, hab] at h
  · rintro rfl
    exact afterLead?_append lead rest

/-- A list is cut in front of the first element that a test refuses. -/
theorem takeWhile_append_stop {p : α → Bool} {l : List α} (hl : ∀ a ∈ l, p a) {b : α}
    (hb : p b = false) (rest : List α) : (l ++ b :: rest).takeWhile p = l := by
  rw [List.takeWhile_append_of_pos hl, List.takeWhile_cons_of_neg (by simp [hb]), List.append_nil]

theorem dropWhile_append_stop {p : α → Bool} {l : List α} (hl : ∀ a ∈ l, p a) {b : α}
    (hb : p b = false) (rest : List α) : (l ++ b :: rest).dropWhile p = b :: rest := by
  rw [List.dropWhile_append_of_pos hl, List.dropWhile_cons_of_neg (by simp [hb])]

/-- What stands behind the accepted elements is nothing, or starts with a refused element. -/
theorem dropWhile_eq_nil_or_cons (p : α → Bool) (l : List α) :
    l.dropWhile p = [] ∨ ∃ b rest, l.dropWhile p = b :: rest ∧ p b = false := by
  cases h : l.dropWhile p with
  | nil => exact Or.inl rfl
  | cons b rest =>
    have hb := List.head?_dropWhile_not p l
    rw [h] at hb
    exact Or.inr ⟨b, rest, rfl, by simpa using hb⟩

section Cuts

variable {stops : α → Bool} {l before after : List α}

theorem not_stops_of_cutAt? (h : cutAt? stops l = some (before, after)) :
    ∀ a ∈ before, stops a = false := by
  rw [cutAt?] at h
  split at h
  · contradiction
  · obtain ⟨rfl, -⟩ := Prod.mk.inj (Option.some.inj h)
    intro a ha
    simpa using List.mem_takeWhile_imp ha

theorem eq_append_of_cutAt? (h : cutAt? stops l = some (before, after)) :
    ∃ a, stops a = true ∧ l = before ++ a :: after := by
  rw [cutAt?] at h
  rcases dropWhile_eq_nil_or_cons (fun a => !stops a) l with hnil | ⟨a, rest, hcons, ha⟩
  · rw [hnil] at h
    contradiction
  · rw [hcons] at h
    obtain ⟨rfl, rfl⟩ := Prod.mk.inj (Option.some.inj h)
    refine ⟨a, by simpa using ha, ?_⟩
    rw [← hcons, List.takeWhile_append_dropWhile]

theorem cutAt?_eq_none_iff : cutAt? stops l = none ↔ ∀ a ∈ l, stops a = false := by
  have hpass : (∀ a ∈ l, stops a = false) ↔ l.dropWhile (fun a => !stops a) = [] := by
    simp [List.dropWhile_eq_nil_iff]
  rw [hpass, cutAt?]
  split
  · next hnil => simp [hnil]
  · next hcons => simp [hcons]

theorem cutAt?_append (hbefore : ∀ a ∈ before, stops a = false) {a : α} (ha : stops a = true)
    (after : List α) : cutAt? stops (before ++ a :: after) = some (before, after) := by
  have hpass : ∀ a ∈ before, (!stops a) = true := by
    intro a ha
    rw [hbefore a ha]
    rfl
  have hstop : (!stops a) = false := by
    rw [ha]
    rfl
  rw [cutAt?, dropWhile_append_stop hpass hstop, takeWhile_append_stop hpass hstop]

end Cuts

/-- Dropping elements of a wider sort first makes no difference to what is dropped. -/
theorem dropWhile_dropWhile_of_imp {p q : α → Bool} (hqp : ∀ a, q a → p a) (l : List α) :
    (l.dropWhile q).dropWhile p = l.dropWhile p := by
  induction l with
  | nil => rfl
  | cons a l ih =>
    by_cases ha : q a
    · rw [List.dropWhile_cons_of_pos ha, List.dropWhile_cons_of_pos (hqp a ha), ih]
    · rw [List.dropWhile_cons_of_neg ha]

theorem takeWhile_dropWhile_of_imp {p q : α → Bool} (hqp : ∀ a, q a → p a) (l : List α) :
    (l.dropWhile q).takeWhile p = (l.takeWhile p).dropWhile q := by
  induction l with
  | nil => rfl
  | cons a l ih =>
    by_cases ha : q a
    · rw [List.dropWhile_cons_of_pos ha, List.takeWhile_cons_of_pos (hqp a ha),
        List.dropWhile_cons_of_pos ha, ih]
    · rw [List.dropWhile_cons_of_neg ha]
      by_cases hp : p a
      · rw [List.takeWhile_cons_of_pos hp, List.dropWhile_cons_of_neg ha]
      · simp [List.takeWhile_cons_of_neg hp]

section Pieces

variable [DecidableEq α] {sep : α}

theorem pieces_ne_nil (sep : α) (l : List α) : pieces sep l ≠ [] := by
  cases l with
  | nil => simp [pieces]
  | cons a l =>
    simp only [pieces]
    split
    · simp
    · split <;> simp

theorem pieces_of_not_mem {l : List α} (h : sep ∉ l) : pieces sep l = [l] := by
  induction l with
  | nil => rfl
  | cons a l ih =>
    obtain ⟨hne, hrest⟩ : sep ≠ a ∧ sep ∉ l := by simpa using h
    rw [pieces, if_neg (Ne.symm hne), ih hrest]

/-- A separator ends the pieces of what stands before it. -/
theorem pieces_append_sep (a b : List α) :
    pieces sep (a ++ sep :: b) = pieces sep a ++ pieces sep b := by
  induction a with
  | nil => simp [pieces]
  | cons x a ih =>
    rw [List.cons_append]
    by_cases hx : x = sep
    · rw [pieces, if_pos hx, ih, pieces, if_pos hx, List.cons_append]
    · obtain ⟨piece, more, hpieces⟩ := List.exists_cons_of_ne_nil (pieces_ne_nil sep a)
      rw [pieces, if_neg hx, ih, pieces, if_neg hx, hpieces]
      rfl

theorem pieces_join {parts : List (List α)} (hparts : ∀ part ∈ parts, sep ∉ part)
    {last : List α} (hlast : sep ∉ last) :
    pieces sep (parts.flatMap (· ++ [sep]) ++ last) = parts ++ [last] := by
  induction parts with
  | nil => exact pieces_of_not_mem hlast
  | cons part parts ih =>
    have hrest := ih fun p hp => hparts p (List.mem_cons_of_mem _ hp)
    rw [List.flatMap_cons, List.append_assoc, List.append_assoc, List.singleton_append,
      pieces_append_sep, pieces_of_not_mem (hparts part List.mem_cons_self), hrest,
      List.singleton_append, List.cons_append]

/-- Every list is cut by a separator in one way. -/
theorem exists_join (sep : α) (l : List α) :
    ∃ (parts : List (List α)) (last : List α), l = parts.flatMap (· ++ [sep]) ++ last ∧
      (∀ part ∈ parts, sep ∉ part) ∧ sep ∉ last := by
  induction l with
  | nil => exact ⟨[], [], rfl, by simp, by simp⟩
  | cons a l ih =>
    obtain ⟨parts, last, rfl, hparts, hlast⟩ := ih
    by_cases ha : a = sep
    · subst ha
      exact ⟨[] :: parts, last, rfl, by simpa using hparts, hlast⟩
    · cases parts with
      | nil => exact ⟨[], a :: last, rfl, by simp, by simpa [Ne.symm ha] using hlast⟩
      | cons part parts =>
        refine ⟨(a :: part) :: parts, last, rfl, ?_, hlast⟩
        intro p hp
        rcases List.mem_cons.mp hp with rfl | hp
        · simpa [Ne.symm ha] using hparts part List.mem_cons_self
        · exact hparts p (List.mem_cons_of_mem _ hp)

theorem mem_of_mem_pieces {l piece : List α} {a : α} (h : piece ∈ pieces sep l) (ha : a ∈ piece) :
    a ∈ l := by
  obtain ⟨parts, last, rfl, hparts, hlast⟩ := exists_join sep l
  rw [pieces_join hparts hlast] at h
  rcases List.mem_append.mp h with h | h
  · exact List.mem_append_left _ (List.mem_flatMap.mpr ⟨piece, h, List.mem_append_left _ ha⟩)
  · exact List.mem_append_right _ (List.mem_singleton.mp h ▸ ha)

theorem not_mem_of_mem_pieces {l piece : List α} (h : piece ∈ pieces sep l) : sep ∉ piece := by
  obtain ⟨parts, last, rfl, hparts, hlast⟩ := exists_join sep l
  rw [pieces_join hparts hlast] at h
  rcases List.mem_append.mp h with h | h
  · exact hparts piece h
  · exact List.mem_singleton.mp h ▸ hlast

end Pieces

namespace Text

theorem isDigit_of_blank {c : Char} (h : isBlank c) : isDigit c = false := by
  simp only [isBlank, Bool.or_eq_true, Bool.and_eq_true, decide_eq_true_eq, beq_iff_eq] at h
  simp only [isDigit, Bool.and_eq_false_iff, decide_eq_false_iff_not, Char.le_def,
    UInt32.le_iff_toNat_le]
  have hzero : '0'.val.toNat = 48 := rfl
  have hnine : '9'.val.toNat = 57 := rfl
  have hc : c.toNat = c.val.toNat := rfl
  omega

theorem trimEnd_eq_nil_iff {t : Text} : trimEnd t = [] ↔ ∀ c ∈ t, isBlank c :=
  List.rdropWhile_eq_nil_iff (p := isBlank)

theorem trimStart_eq_nil_iff {t : Text} : trimStart t = [] ↔ ∀ c ∈ t, isBlank c :=
  List.dropWhile_eq_nil_iff

theorem trimEnd_cons (c : Char) (t : Text) :
    trimEnd (c :: t) = if (c :: t).all isBlank then [] else c :: trimEnd t := by
  have hend : ∀ l : Text, trimEnd l = (l.reverse.dropWhile isBlank).reverse := fun _ => rfl
  by_cases hall : ∀ b ∈ c :: t, isBlank b
  · rw [trimEnd_eq_nil_iff.mpr hall, if_pos (by simpa using hall)]
  · rw [if_neg (by simpa using hall), hend, hend, List.reverse_cons, List.dropWhile_append]
    by_cases ht : t.reverse.dropWhile isBlank = []
    · have hblank : ∀ b ∈ t, isBlank b := by simpa [List.dropWhile_eq_nil_iff] using ht
      have hc : ¬ isBlank c := fun hc => hall (List.forall_mem_cons.mpr ⟨hc, hblank⟩)
      simp [ht, hc]
    · simp [ht]

/-- A text with a character in front that is not white space keeps that character. -/
theorem trimEnd_cons_of_not_blank {c : Char} (hc : isBlank c = false) (t : Text) :
    trimEnd (c :: t) = c :: trimEnd t := by
  rw [trimEnd_cons]; simp [hc]

theorem trimStart_cons_of_not_blank {c : Char} (hc : isBlank c = false) (t : Text) :
    trimStart (c :: t) = c :: t := by
  rw [trimStart, List.dropWhile_cons_of_neg (by simp [hc])]

theorem trim_cons_of_not_blank {c : Char} (hc : isBlank c = false) (t : Text) :
    trim (c :: t) = c :: trimEnd t := by
  rw [trim, trimStart_cons_of_not_blank hc, trimEnd_cons_of_not_blank hc]

/-- Nothing is trimmed in front of a character that is not white space. -/
theorem trimEnd_append_cons_of_not_blank {c : Char} (hc : isBlank c = false) (t u : Text) :
    trimEnd (t ++ c :: u) = t ++ c :: trimEnd u := by
  induction t with
  | nil => exact trimEnd_cons_of_not_blank hc u
  | cons a t ih =>
    have hwritten : ¬ (a :: t ++ c :: u).all isBlank := by simp [hc]
    rw [List.cons_append, trimEnd_cons, ← List.cons_append, if_neg hwritten, ih, List.cons_append]

theorem trimStart_append_of_blank {gap : Text} (hgap : ∀ c ∈ gap, isBlank c) (t : Text) :
    trimStart (gap ++ t) = trimStart t :=
  List.dropWhile_append_of_pos hgap

theorem trimEnd_append_of_blank {gap : Text} (hgap : ∀ c ∈ gap, isBlank c) (t : Text) :
    trimEnd (t ++ gap) = trimEnd t := by
  have hrev : ∀ c ∈ gap.reverse, isBlank c := by simpa using hgap
  show ((t ++ gap).reverse.dropWhile isBlank).reverse = _
  rw [List.reverse_append, List.dropWhile_append_of_pos hrev]
  rfl

/-- White space around a text makes no difference to its trimmed form. -/
theorem trim_padded {before after : Text} (hbefore : ∀ c ∈ before, isBlank c)
    (hafter : ∀ c ∈ after, isBlank c) (t : Text) : trim (before ++ t ++ after) = trim t := by
  rw [trim, List.append_assoc, trimStart_append_of_blank hbefore, trim]
  by_cases ht : ∀ c ∈ t, isBlank c
  · have hall : ∀ c ∈ t ++ after, isBlank c := by
      intro c hc
      rcases List.mem_append.mp hc with hc | hc
      · exact ht c hc
      · exact hafter c hc
    rw [trimStart_eq_nil_iff.mpr hall, trimStart_eq_nil_iff.mpr ht]
  · have hne : t.dropWhile isBlank ≠ [] := by rwa [Ne, List.dropWhile_eq_nil_iff]
    rw [trimStart, List.dropWhile_append]
    simp only [List.isEmpty_iff, hne, if_false]
    exact trimEnd_append_of_blank hafter _

theorem exists_trimEnd_append (t : Text) :
    ∃ after, (∀ c ∈ after, isBlank c) ∧ t = trimEnd t ++ after := by
  refine ⟨(t.reverse.takeWhile isBlank).reverse, ?_, ?_⟩
  · intro c hc
    exact List.mem_takeWhile_imp (List.mem_reverse.mp hc)
  · show t = (t.reverse.dropWhile isBlank).reverse ++ _
    rw [← List.reverse_append, List.takeWhile_append_dropWhile, List.reverse_reverse]

/-- Nothing but white space at the ends is trimmed. -/
theorem exists_padding (t : Text) : ∃ before after, (∀ c ∈ before, isBlank c) ∧
    (∀ c ∈ after, isBlank c) ∧ t = before ++ trim t ++ after := by
  obtain ⟨after, hafter, htext⟩ := exists_trimEnd_append (trimStart t)
  refine ⟨t.takeWhile isBlank, after, fun c hc => List.mem_takeWhile_imp hc, hafter, ?_⟩
  rw [List.append_assoc, trim, ← htext, trimStart, List.takeWhile_append_dropWhile]

theorem trim_eq_nil_iff {t : Text} : trim t = [] ↔ ∀ c ∈ t, isBlank c := by
  constructor
  · intro h
    obtain ⟨before, after, hbefore, hafter, htext⟩ := exists_padding t
    rw [h, List.append_nil] at htext
    intro c hc
    rw [htext] at hc
    exact (List.mem_append.mp hc).elim (hbefore c) (hafter c)
  · intro h
    have hpadded := trim_padded h (fun c hc => absurd hc List.not_mem_nil) []
    rwa [List.append_nil, List.append_nil] at hpadded

theorem trim_trim (t : Text) : trim (trim t) = trim t := by
  obtain ⟨before, after, hbefore, hafter, htext⟩ := exists_padding t
  conv_rhs => rw [htext]
  exact (trim_padded hbefore hafter _).symm

theorem trim_trimEnd (t : Text) : trim (trimEnd t) = trim t := by
  obtain ⟨after, hafter, htext⟩ := exists_trimEnd_append t
  have hpadded := trim_padded (fun c hc => absurd hc List.not_mem_nil) hafter (trimEnd t)
  rw [List.nil_append, ← htext] at hpadded
  exact hpadded.symm

/-- A text without white space at its ends does not start with any. -/
theorem not_blank_of_trimmed {c : Char} {t : Text} (h : trim (c :: t) = c :: t) :
    isBlank c = false := by
  by_contra hc
  have hdropped : trim (c :: t) = trim t := by
    rw [trim, trimStart, List.dropWhile_cons_of_pos (by simpa using hc)]
    rfl
  have hlength : (trim t).length ≤ t.length := by
    obtain ⟨before, after, -, -, htext⟩ := exists_padding t
    have := congrArg List.length htext
    simp only [List.length_append] at this
    omega
  rw [← hdropped, h, List.length_cons] at hlength
  omega

theorem mem_of_mem_trimEnd {c : Char} {t : Text} (h : c ∈ trimEnd t) : c ∈ t := by
  obtain ⟨after, -, htext⟩ := exists_trimEnd_append t
  rw [htext]
  exact List.mem_append_left _ h

theorem mem_of_mem_trim {c : Char} {t : Text} (h : c ∈ trim t) : c ∈ t := by
  obtain ⟨before, after, -, -, htext⟩ := exists_padding t
  rw [htext]
  exact List.mem_append_left _ (List.mem_append_right _ h)

theorem exists_dropReturn_append (t : Text) :
    ∃ gone, (∀ c ∈ gone, isBlank c) ∧ t = dropReturn t ++ gone := by
  rw [dropReturn]
  split
  · next hlast =>
    exact ⟨['\r'], List.forall_mem_singleton.mpr rfl,
      (List.dropLast_append_getLast? _ hlast).symm⟩
  · exact ⟨[], by simp, (List.append_nil t).symm⟩

/-- White space at the ends of a line does not tell how the line has been ended. -/
theorem trim_dropReturn (t : Text) : trim (dropReturn t) = trim t := by
  obtain ⟨gone, hgone, htext⟩ := exists_dropReturn_append t
  have hpadded := trim_padded (fun c hc => absurd hc List.not_mem_nil) hgone (dropReturn t)
  rw [List.nil_append, ← htext] at hpadded
  exact hpadded.symm

/-- The first line feed ends the first line. -/
theorem lines_append_feed {line : Text} (h : '\n' ∉ line) (rest : Text) :
    lines (line ++ '\n' :: rest) = dropReturn line :: lines rest := by
  have hpieces : pieces '\n' (line ++ '\n' :: rest) = line :: pieces '\n' rest := by
    rw [pieces_append_sep, pieces_of_not_mem h, List.singleton_append]
  obtain ⟨piece, more, hmore⟩ := List.exists_cons_of_ne_nil (pieces_ne_nil '\n' rest)
  simp only [lines, hpieces, hmore, List.dropLast_cons_cons, List.map_cons,
    List.getLast?_cons_cons]
  split <;> simp_all

/-- A line is a piece of the text between line feeds, or such a piece without its carriage return. -/
theorem exists_piece_of_mem_lines {line t : Text} (h : line ∈ lines t) :
    ∃ gone, line ++ gone ∈ pieces '\n' t := by
  have hended : line ∈ (pieces '\n' t).dropLast.map dropReturn →
      ∃ gone, line ++ gone ∈ pieces '\n' t := by
    intro hmem
    obtain ⟨part, hpart, rfl⟩ := List.mem_map.mp hmem
    obtain ⟨gone, -, htext⟩ := exists_dropReturn_append part
    exact ⟨gone, htext ▸ List.dropLast_subset _ hpart⟩
  simp only [lines] at h
  split at h
  · exact hended h
  · exact hended h
  · next last _ hlast =>
    rcases List.mem_append.mp h with h | h
    · exact hended h
    · obtain rfl := List.mem_singleton.mp h
      exact ⟨[], by rw [List.append_nil]; exact List.mem_of_getLast? hlast⟩

/-- No line holds a line feed. -/
theorem lineFeed_not_mem_of_mem_lines {line t : Text} (h : line ∈ lines t) : '\n' ∉ line := by
  obtain ⟨gone, hpiece⟩ := exists_piece_of_mem_lines h
  exact fun hfeed => not_mem_of_mem_pieces hpiece (List.mem_append_left gone hfeed)

theorem mem_of_mem_lines {c : Char} {line t : Text} (h : line ∈ lines t) (hc : c ∈ line) :
    c ∈ t := by
  obtain ⟨gone, hpiece⟩ := exists_piece_of_mem_lines h
  exact mem_of_mem_pieces hpiece (List.mem_append_left gone hc)

/-- A numeral can be read back. -/
theorem decimal_injective {n m : Nat} (h : decimal n = decimal m) : n = m := by
  have hread := fun k => Nat.ofDigitChars_toDigits (b := 10) (n := k) (by decide) (by decide)
  rw [← hread n, ← hread m]
  exact congrArg (fun digits => Nat.ofDigitChars 10 digits 0) h

theorem digitValue?_of_isDigit {c : Char} (h : isDigit c) :
    digitValue? 10 c = some (c.toNat - '0'.toNat) := by
  have hdigit : '0' ≤ c ∧ c ≤ '9' := by simpa [isDigit] using h
  have hsmall : c.toNat - '0'.toNat < 10 := by
    have hnine : c.toNat ≤ '9'.toNat := hdigit.2
    have : '9'.toNat = '0'.toNat + 9 := rfl
    omega
  simp only [digitValue?, hdigit, and_self, if_true, Option.filter_some, decide_eq_true_eq, hsmall]

/-- ASCII digits are read as a numeral. -/
theorem natOfDigits?_of_digits {digits : Text} (hne : digits ≠ []) (h : ∀ c ∈ digits, isDigit c) :
    natOfDigits? 10 digits = some (Nat.ofDigitChars 10 digits 0) := by
  have hfold : ∀ (digits : Text) (n : Nat), (∀ c ∈ digits, isDigit c) →
      digits.foldl (fun n c => do return (← n) * 10 + (← digitValue? 10 c)) (some n) =
        some (Nat.ofDigitChars 10 digits n) := by
    intro digits n h
    induction digits generalizing n with
    | nil => rfl
    | cons c digits ih =>
      obtain ⟨hc, h⟩ := List.forall_mem_cons.mp h
      rw [List.foldl_cons, Nat.ofDigitChars_cons, ← ih _ h, digitValue?_of_isDigit hc,
        Nat.mul_comm]
      rfl
  obtain ⟨c, rest, rfl⟩ := List.exists_cons_of_ne_nil hne
  exact hfold _ 0 h

theorem isDigit_of_mem_decimal {c : Char} {n : Nat} (h : c ∈ decimal n) : isDigit c :=
  Nat.isDigit_of_mem_toDigits (by decide) (by decide) h

theorem isDigit_of_mem_zeros_decimal {c : Char} {zeros n : Nat}
    (h : c ∈ List.replicate zeros '0' ++ decimal n) : isDigit c := by
  rcases List.mem_append.mp h with h | h
  · rw [(List.mem_replicate.mp h).2]
    rfl
  · exact isDigit_of_mem_decimal h

/-- A numeral may have zeros in front. -/
theorem natOfDigits?_decimal (zeros n : Nat) :
    natOfDigits? 10 (List.replicate zeros '0' ++ decimal n) = some n := by
  have hne : List.replicate zeros '0' ++ decimal n ≠ [] :=
    List.append_ne_nil_of_right_ne_nil _ Nat.toDigits_ne_nil
  rw [natOfDigits?_of_digits hne fun _ => isDigit_of_mem_zeros_decimal, Nat.ofDigitChars_append,
    Nat.ofDigitChars_replicate_zero]
  exact congrArg some (Nat.ofDigitChars_toDigits (by decide) (by decide))

end Text

namespace Utf8

theorem encodeChar_ne_nil (c : Char) : encodeChar c ≠ [] := by
  simp only [encodeChar]
  split_ifs <;> simp

theorem encode_cons (c : Char) (t : Text) : encode (c :: t) = encodeChar c ++ encode t :=
  List.flatMap_cons

@[simp] theorem encode_append (s t : Text) : encode (s ++ t) = encode s ++ encode t :=
  List.flatMap_append

/-- The number of bytes is that of the encoding. -/
theorem size_eq_length_encode (t : Text) : size t = (encode t).length := by
  have hfold : ∀ (n : Nat) (t : Text),
      t.foldl (fun n c => n + (encodeChar c).length) n = n + (encode t).length := by
    intro n t
    induction t generalizing n with
    | nil => rfl
    | cons c t ih =>
      rw [List.foldl_cons, ih, encode_cons, List.length_append, Nat.add_assoc]
  rw [size, hfold, Nat.zero_add]

@[simp] theorem size_append (s t : Text) : size (s ++ t) = size s + size t := by
  simp [size_eq_length_encode]

theorem size_pos {t : Text} (ht : t ≠ []) : 0 < size t := by
  cases t with
  | nil => exact absurd rfl ht
  | cons c t =>
    rw [size_eq_length_encode, encode_cons, List.length_append]
    have := List.length_pos_of_ne_nil (encodeChar_ne_nil c)
    omega

/-- Text in ASCII takes one byte for each character. -/
theorem size_of_ascii {t : Text} (h : ∀ c ∈ t, c.toNat < 0x80) : size t = t.length := by
  rw [size_eq_length_encode]
  induction t with
  | nil => rfl
  | cons c t ih =>
    obtain ⟨hc, h⟩ := List.forall_mem_cons.mp h
    rw [encode_cons, List.length_append, ih h, encodeChar, if_pos hc, List.length_singleton,
      List.length_cons, Nat.add_comm]

end Utf8

end Infill
