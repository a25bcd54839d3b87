import Infill.Json.Parser
import Infill.Proofs.Text

/-!
# JSON texts

`IsText` says which texts without blanks stand for a value, in whatever way the characters of its
strings are escaped and in whatever order the members of its objects stand.  What stands for a value
is read as that value (`parse_of_isText`), and `stringText` is one of the texts of a string.
-/

namespace Infill.Json

section Strings

/-- The letters that stand for a character behind a backslash. -/
def shortEscapes : List (Char × Char) :=
  [('"', '"'), ('\\', '\\'), ('/', '/'), ('b', '\x08'), ('f', '\x0C'), ('n', '\n'), ('r', '\r'),
    ('t', '\t')]

/-- Four hexadecimal digits that stand for a unit of UTF-16. -/
def IsUnit (digits : Text) (n : Nat) : Prop :=
  digits.length = 4 ∧ Text.natOfDigits? 16 digits = some n

/-- The ways to write a character within a string: as it is, if it is neither a quote nor a
backslash nor a control character, behind a backslash by a letter, or by one or two units. -/
inductive IsCharText : Text → Char → Prop
  | plain {c : Char} (noQuote : c ≠ '"') (noBackslash : c ≠ '\\') (noControl : 0x20 ≤ c.toNat) :
      IsCharText [c] c
  | short {letter c : Char} (stands : (letter, c) ∈ shortEscapes) : IsCharText ['\\', letter] c
  | unit {digits : Text} {c : Char} (unit : IsUnit digits c.toNat) :
      IsCharText (['\\', 'u'] ++ digits) c
  | pair {first second : Text} {high low : Nat} {c : Char} (isFirst : IsUnit first (0xD800 + high))
      (isSecond : IsUnit second (0xDC00 + low)) (inRange : high < 0x400 ∧ low < 0x400)
      (stands : c.toNat = 0x10000 + high * 0x400 + low) :
      IsCharText (['\\', 'u'] ++ first ++ ['\\', 'u'] ++ second) c

/-- The characters of a string one after the other. -/
inductive IsCharsText : Text → Text → Prop
  | nil : IsCharsText [] []
  | cons {piece t s : Text} {c : Char} (first : IsCharText piece c) (more : IsCharsText t s) :
      IsCharsText (piece ++ t) (c :: s)

/-- The text of a string. -/
def IsStringText (t s : Text) : Prop := ∃ chars, t = '"' :: chars ++ ['"'] ∧ IsCharsText chars s

variable {t s rest : Text} {c : Char}

theorem takeUnit_of_isUnit {digits : Text} {n : Nat} (h : IsUnit digits n) (rest : Text) :
    takeUnit (digits ++ rest) = .ok (n, rest) := by
  obtain ⟨hlength, hvalue⟩ := h
  have htake : (digits ++ rest).take 4 = digits := by
    rw [← hlength]
    exact List.take_left
  have hdrop : (digits ++ rest).drop 4 = rest := by
    rw [← hlength]
    exact List.drop_left
  rw [takeUnit, htake, hdrop, hvalue]
  simp [hlength]

/-- A unit that is a character is not a part of a pair. -/
theorem takeUnicode_of_unit {digits : Text} (h : IsUnit digits c.toNat) (rest : Text) :
    takeUnicode (digits ++ rest) = .ok (c, rest) := by
  have hvalid : c.toNat < 0xD800 ∨ 0xE000 ≤ c.toNat := by
    rcases c.valid with hlow | hhigh
    · exact Or.inl hlow
    · exact Or.inr hhigh.1
  have hfirst : ¬ (0xD800 ≤ c.toNat ∧ c.toNat < 0xDC00) := by omega
  have hsecond : ¬ (0xDC00 ≤ c.toNat ∧ c.toNat < 0xE000) := by omega
  unfold takeUnicode
  rw [takeUnit_of_isUnit h]
  show (if _ then _ else _) = _
  rw [if_neg hfirst, if_neg hsecond, Char.ofNat_toNat]
  rfl

theorem takeUnicode_of_pair {first second : Text} {high low : Nat}
    (hfirst : IsUnit first (0xD800 + high)) (hsecond : IsUnit second (0xDC00 + low))
    (hrange : high < 0x400 ∧ low < 0x400) (hc : c.toNat = 0x10000 + high * 0x400 + low)
    (rest : Text) :
    takeUnicode (first ++ (['\\', 'u'] ++ (second ++ rest))) = .ok (c, rest) := by
  have hhigh : 0xD800 ≤ 0xD800 + high ∧ 0xD800 + high < 0xDC00 := by omega
  have hlow : 0xDC00 ≤ 0xDC00 + low ∧ 0xDC00 + low < 0xE000 := by omega
  unfold takeUnicode
  rw [takeUnit_of_isUnit hfirst]
  show (if _ then _ else _) = _
  rw [if_pos hhigh]
  show (takeUnit (second ++ rest) >>= _) = _
  rw [takeUnit_of_isUnit hsecond]
  show (if _ then _ else _) = _
  rw [if_pos hlow, Nat.add_sub_cancel_left, Nat.add_sub_cancel_left, ← hc, Char.ofNat_toNat]
  rfl

theorem takeString_plain (noQuote : c ≠ '"') (noBackslash : c ≠ '\\') (noControl : 0x20 ≤ c.toNat)
    (fuel : Nat) (seen rest : Text) :
    takeString (fuel + 1) seen (c :: rest) = takeString fuel (c :: seen) rest := by
  have hquote : ¬ (c == '"') = true := by simpa using noQuote
  have hbackslash : ¬ (c == '\\') = true := by simpa using noBackslash
  have hcontrol : ¬ c.toNat < 0x20 := by omega
  show (if (c == '"') = true then _ else if (c == '\\') = true then _ else
    if c.toNat < 0x20 then _ else _) = _
  rw [if_neg hquote, if_neg hbackslash, if_neg hcontrol]

theorem takeString_unicode {t : Text} (h : takeUnicode t = .ok (c, rest)) (fuel : Nat)
    (seen : Text) :
    takeString (fuel + 1) seen ('\\' :: 'u' :: t) = takeString fuel (c :: seen) rest := by
  rw [takeString.eq_def]
  simp only [h]
  rfl

/-- One step of reading takes one character, in whatever way it is written. -/
theorem takeString_of_isCharText {piece : Text} (h : IsCharText piece c) (fuel : Nat)
    (seen rest : Text) :
    takeString (fuel + 1) seen (piece ++ rest) = takeString fuel (c :: seen) rest := by
  cases h with
  | plain noQuote noBackslash noControl =>
    rw [List.singleton_append, takeString_plain noQuote noBackslash noControl]
  | @short letter _ stands =>
    have hall : ∀ e ∈ shortEscapes, takeString (fuel + 1) seen ('\\' :: e.1 :: rest) =
        takeString fuel (e.2 :: seen) rest := by
      simp only [shortEscapes, List.forall_mem_cons, List.not_mem_nil, false_imp_iff, implies_true,
        and_true]
      exact ⟨rfl, rfl, rfl, rfl, rfl, rfl, rfl, rfl⟩
    exact hall _ stands
  | @unit digits _ unit =>
    rw [List.append_assoc]
    exact takeString_unicode (takeUnicode_of_unit unit rest) fuel seen
  | @pair first second high low _ isFirst isSecond inRange stands =>
    rw [List.append_assoc, List.append_assoc, List.append_assoc]
    exact takeString_unicode (takeUnicode_of_pair isFirst isSecond inRange stands rest) fuel seen

theorem takeString_of_isCharsText (h : IsCharsText t s) {fuel : Nat} (hfuel : t.length < fuel)
    (seen rest : Text) :
    takeString fuel seen (t ++ '"' :: rest) = .ok (seen.reverse ++ s, rest) := by
  induction h generalizing fuel seen with
  | nil =>
    obtain ⟨fuel, rfl⟩ := Nat.exists_eq_succ_of_ne_zero (Nat.ne_of_gt hfuel)
    rw [List.nil_append, List.append_nil]
    rfl
  | @cons piece t s c first more ih =>
    have hpiece : 0 < piece.length := by cases first <;> simp
    rw [List.length_append] at hfuel
    obtain ⟨fuel, rfl⟩ := Nat.exists_eq_succ_of_ne_zero (Nat.ne_zero_of_lt hfuel)
    rw [List.append_assoc, takeString_of_isCharText first, ih (by omega)]
    simp

/-- A string is read with as much fuel as there are characters behind its quote. -/
theorem takeString_of_isStringText (h : IsStringText t s) (rest : Text) :
    ∃ more, t ++ rest = '"' :: more ∧ takeString more.length [] more = .ok (s, rest) := by
  obtain ⟨chars, rfl, hchars⟩ := h
  refine ⟨chars ++ '"' :: rest, by simp, ?_⟩
  have hfuel : chars.length < (chars ++ '"' :: rest).length := by simp
  rw [takeString_of_isCharsText hchars hfuel]
  rfl

/-- The digits of a control character. -/
theorem isUnit_of_control : ∀ n < 0x20,
    IsUnit (['0', '0'] ++ Text.numeral 16 (n / 16) ++ Text.numeral 16 (n % 16)) n := by
  unfold IsUnit
  decide

theorem isCharText_escapedChar (c : Char) : IsCharText (escapedChar c) c := by
  unfold escapedChar
  split
  · exact .short (by decide)
  · exact .short (by decide)
  · exact .short (by decide)
  · exact .short (by decide)
  · exact .short (by decide)
  · exact .short (by decide)
  · exact .short (by decide)
  · next noQuote noBackslash _ _ _ _ _ =>
    split
    · next hcontrol => exact .unit (isUnit_of_control _ hcontrol)
    · next hcontrol => exact .plain noQuote noBackslash (by omega)

theorem isStringText_stringText (s : Text) : IsStringText (stringText s) s := by
  refine ⟨s.flatMap escapedChar, rfl, ?_⟩
  induction s with
  | nil => exact .nil
  | cons c s ih => exact .cons (isCharText_escapedChar c) ih

end Strings

section Numbers

/-- One or more digits. -/
def IsDigits (t : Text) : Prop := t ≠ [] ∧ ∀ c ∈ t, Text.isDigit c

/-- The text of a fraction, if there is one, and its digits. -/
inductive IsFractionText : Text → Option Text → Prop
  | none : IsFractionText [] none
  | some {digits : Text} (isDigits : IsDigits digits) : IsFractionText ('.' :: digits) (some digits)

/-- The text of an exponent, if there is one, whether it is negative, and its digits. -/
inductive IsExponentText : Text → Option (Bool × Text) → Prop
  | none : IsExponentText [] none
  | some {mark : Char} {sign digits : Text} {isNegative : Bool} (isMark : mark ∈ ['e', 'E'])
      (isSign : (sign, isNegative) ∈ [([], false), (['+'], false), (['-'], true)])
      (isDigits : IsDigits digits) :
      IsExponentText (mark :: (sign ++ digits)) (some (isNegative, digits))

/-- The text of a numeral.  Its whole part does not start with a zero, unless it is one. -/
inductive IsNumeralText : Text → Numeral → Prop
  | intro {whole fractionText exponentText : Text} {fraction : Option Text}
      {exponent : Option (Bool × Text)} (isNegative : Bool) (isDigits : IsDigits whole)
      (noLead : whole.head? = some '0' → whole = ['0'])
      (fractionPart : IsFractionText fractionText fraction)
      (exponentPart : IsExponentText exponentText exponent) :
      IsNumeralText
        ((if isNegative then ['-'] else []) ++ (whole ++ (fractionText ++ exponentText)))
        { isNegative, whole, fraction, exponent }

/-- The text ends, or an item or a member of something ends in front of it. -/
def Ends (rest : Text) : Prop := ∀ c ∈ rest.head?, c ∈ [',', ']', '}']

variable {t rest : Text}

theorem ne_of_isDigit {d b : Char} (hd : Text.isDigit d = true) (hb : Text.isDigit b = false) :
    d ≠ b := by
  rintro rfl
  rw [hb] at hd
  contradiction

theorem takeWhile_isDigit {digits : Text} (h : ∀ c ∈ digits, Text.isDigit c)
    (hrest : ∀ c ∈ rest.head?, Text.isDigit c = false) :
    (digits ++ rest).takeWhile Text.isDigit = digits ∧
      (digits ++ rest).dropWhile Text.isDigit = rest := by
  cases rest with
  | nil =>
    rw [List.append_nil, List.takeWhile_eq_self_iff, List.dropWhile_eq_nil_iff]
    exact ⟨h, h⟩
  | cons c rest =>
    have hc := hrest c rfl
    exact ⟨takeWhile_append_stop h hc rest, dropWhile_append_stop h hc rest⟩

theorem takeFraction_of_isFractionText {fraction : Option Text} (h : IsFractionText t fraction)
    (hrest : ∀ c ∈ rest.head?, c ≠ '.' ∧ Text.isDigit c = false) :
    takeFraction (t ++ rest) = .ok (fraction, rest) := by
  cases h with
  | none =>
    cases rest with
    | nil => rfl
    | cons c rest =>
      have hc := (hrest c rfl).1
      rw [List.nil_append]
      unfold takeFraction
      split
      · next heq => exact absurd (List.cons.inj heq).1 hc
      · rfl
  | @some digits isDigits =>
    obtain ⟨htake, hdrop⟩ := takeWhile_isDigit isDigits.2 fun c hc => (hrest c hc).2
    rw [List.cons_append]
    simp only [takeFraction, htake, hdrop, if_neg isDigits.1]

theorem takeExponent_of_isExponentText {exponent : Option (Bool × Text)}
    (h : IsExponentText t exponent)
    (hrest : ∀ c ∈ rest.head?, c ≠ 'e' ∧ c ≠ 'E' ∧ Text.isDigit c = false) :
    takeExponent (t ++ rest) = .ok (exponent, rest) := by
  cases h with
  | none =>
    cases rest with
    | nil => rfl
    | cons c rest =>
      obtain ⟨he, hE, -⟩ := hrest c rfl
      simp [takeExponent, he, hE]
  | @some mark sign digits isNegative isMark isSign isDigits =>
    obtain ⟨htake, hdrop⟩ := takeWhile_isDigit isDigits.2 fun c hc => (hrest c hc).2.2
    have hmark : (mark == 'e' || mark == 'E') = true := by simpa using isMark
    rw [List.cons_append, List.append_assoc]
    simp only [List.mem_cons, Prod.mk.injEq, List.not_mem_nil, or_false] at isSign
    rcases isSign with ⟨rfl, rfl⟩ | ⟨rfl, rfl⟩ | ⟨rfl, rfl⟩
    · -- Without a sign the first digit stands where a sign would.
      obtain ⟨d, more, rfl⟩ := List.exists_cons_of_ne_nil isDigits.1
      have hd := isDigits.2 d List.mem_cons_self
      have hplus : d ≠ '+' := ne_of_isDigit hd rfl
      have hminus : d ≠ '-' := ne_of_isDigit hd rfl
      rw [List.cons_append] at htake hdrop
      simp [takeExponent, hmark, hplus, hminus, htake, hdrop]
    · simp [takeExponent, hmark, htake, hdrop, isDigits.1]
    · simp [takeExponent, hmark, htake, hdrop, isDigits.1]

/-- What ends a value goes on with no numeral. -/
theorem Ends.stops (h : Ends rest) : ∀ c ∈ rest.head?,
    c ≠ '.' ∧ c ≠ 'e' ∧ c ≠ 'E' ∧ Text.isDigit c = false := by
  intro c hc
  have hclose := h c hc
  simp only [List.mem_cons, List.not_mem_nil, or_false] at hclose
  rcases hclose with rfl | rfl | rfl
  · decide
  · decide
  · decide

theorem takeNumeral_of_parts {whole fractionText exponentText : Text} {fraction : Option Text}
    {exponent : Option (Bool × Text)} (isNegative : Bool) (hwhole : IsDigits whole)
    (hlead : whole.head? = some '0' → whole = ['0'])
    (hfraction : IsFractionText fractionText fraction)
    (hexponent : IsExponentText exponentText exponent) (hrest : Ends rest) :
    takeNumeral isNegative (whole ++ (fractionText ++ (exponentText ++ rest))) =
      .ok ({ isNegative, whole, fraction, exponent }, rest) := by
  have hexponentHead : ∀ c ∈ (exponentText ++ rest).head?, c ≠ '.' ∧ Text.isDigit c = false := by
    intro c hc
    cases hexponent with
    | none => exact ⟨(hrest.stops c hc).1, (hrest.stops c hc).2.2.2⟩
    | @some mark sign digits isNegative isMark isSign isDigits =>
      obtain rfl : mark = c := by simpa using hc
      simp only [List.mem_cons, List.not_mem_nil, or_false] at isMark
      rcases isMark with rfl | rfl
      · decide
      · decide
  have hfractionHead : ∀ c ∈ (fractionText ++ (exponentText ++ rest)).head?,
      Text.isDigit c = false := by
    intro c hc
    cases hfraction with
    | none => exact (hexponentHead c hc).2
    | some =>
      obtain rfl : '.' = c := by simpa using hc
      decide
  have hnumeral : (decide (whole = []) ||
      (whole.head? == some '0' && decide (1 < whole.length))) = false := by
    have hone : ¬ (whole.head? = some '0' ∧ 1 < whole.length) := by
      rintro ⟨hzero, hlong⟩
      rw [hlead hzero] at hlong
      exact absurd hlong (by decide)
    simpa [hwhole.1] using hone
  obtain ⟨htake, hdrop⟩ := takeWhile_isDigit hwhole.2 hfractionHead
  have hfractionRead := takeFraction_of_isFractionText hfraction hexponentHead
  have hexponentRead := takeExponent_of_isExponentText hexponent fun c hc => (hrest.stops c hc).2
  unfold takeNumeral
  rw [htake, hdrop, hfractionRead]
  simp only [hnumeral]
  show (takeExponent (exponentText ++ rest) >>= _) = _
  rw [hexponentRead]
  rfl

theorem takeNumber_of_isNumeralText {numeral : Numeral} (h : IsNumeralText t numeral)
    {n : Number} (hn : numeral.number = .ok n) (hrest : Ends rest) :
    takeNumber (t ++ rest) = .ok (n, rest) := by
  obtain ⟨isNegative, isDigits, noLead, fractionPart, exponentPart⟩ := h
  next whole fractionText exponentText fraction exponent =>
  have hread := takeNumeral_of_parts isNegative isDigits noLead fractionPart exponentPart hrest
  have htext : (if isNegative then ['-'] else []) ++ (whole ++ (fractionText ++ exponentText)) ++
      rest = (if isNegative then ['-'] else []) ++
        (whole ++ (fractionText ++ (exponentText ++ rest))) := by simp
  rw [htext]
  unfold takeNumber
  cases isNegative with
  | true =>
    rw [if_pos rfl, List.singleton_append]
    simp only [hread]
    show (Numeral.number _ >>= _) = _
    rw [hn]
    rfl
  | false =>
    obtain ⟨d, more, rfl⟩ := List.exists_cons_of_ne_nil isDigits.1
    have hminus : d ≠ '-' := ne_of_isDigit (isDigits.2 d List.mem_cons_self) rfl
    rw [if_neg Bool.false_ne_true, List.nil_append]
    split
    · next heq => exact absurd (List.cons.inj heq).1 hminus
    · rw [hread]
      show (Numeral.number _ >>= _) = _
      rw [hn]
      rfl

end Numbers

section Values

/-- A member of an object with the texts of its name and of its value. -/
structure WrittenMember where
  nameText : Text
  name : Text
  valueText : Text
  value : Json

/-- The text of a member. -/
def WrittenMember.text (m : WrittenMember) : Text := m.nameText ++ ':' :: m.valueText

/-- The texts without blanks that stand for a value with at most `depth` levels of arrays and
objects. -/
inductive IsText : (depth : Nat) → Text → Json → Prop
  | null {depth : Nat} : IsText depth "null".toList .null
  | yes {depth : Nat} : IsText depth "true".toList (.bool true)
  | no {depth : Nat} : IsText depth "false".toList (.bool false)
  | number {depth : Nat} {t : Text} {numeral : Numeral} {n : Number}
      (isNumeral : IsNumeralText t numeral) (stands : numeral.number = .ok n) :
      IsText depth t (.number n)
  | string {depth : Nat} {t s : Text} (isString : IsStringText t s) : IsText depth t (.string s)
  | array {depth : Nat} {items : List (Text × Json)}
      (each : ∀ item ∈ items, IsText depth item.1 item.2) :
      IsText (depth + 1) ('[' :: (Text.join [','] (items.map Prod.fst) ++ [']']))
        (.array (items.map Prod.snd))
  | object {depth : Nat} {members : List WrittenMember}
      (names : ∀ m ∈ members, IsStringText m.nameText m.name)
      (values : ∀ m ∈ members, IsText depth m.valueText m.value) :
      IsText (depth + 1) ('{' :: (Text.join [','] (members.map WrittenMember.text) ++ ['}']))
        (ofMembers (members.map fun m => (m.name, m.value)))

variable {depth fuel : Nat} {t s rest : Text} {j : Json} {value : ValueReader}

theorem skipBlanks_of_not_blank {c : Char} (hc : isBlank c = false) (t : Text) :
    skipBlanks (c :: t) = c :: t := by
  rw [skipBlanks, List.dropWhile_cons_of_neg]
  simp [hc]

theorem IsStringText.exists_cons (h : IsStringText t s) : ∃ more, t = '"' :: more := by
  obtain ⟨chars, rfl, -⟩ := h
  exact ⟨_, rfl⟩

theorem exists_digit_or_minus {numeral : Numeral} (h : IsNumeralText t numeral) :
    ∃ c more, t = c :: more ∧ (c = '-' ∨ Text.isDigit c = true) := by
  obtain ⟨isNegative, isDigits, -, -, -⟩ := h
  next whole fractionText exponentText fraction exponent =>
  cases isNegative with
  | true => exact ⟨'-', _, rfl, Or.inl rfl⟩
  | false =>
    obtain ⟨d, more, rfl⟩ := List.exists_cons_of_ne_nil isDigits.1
    exact ⟨d, _, rfl, Or.inr (isDigits.2 d List.mem_cons_self)⟩

/-- A value starts with a character that is not skipped and closes no array. -/
theorem IsText.exists_cons (h : IsText depth t j) :
    ∃ c more, t = c :: more ∧ isBlank c = false ∧ c ≠ ']' := by
  cases h with
  | null => exact ⟨'n', _, rfl, by decide⟩
  | yes => exact ⟨'t', _, rfl, by decide⟩
  | no => exact ⟨'f', _, rfl, by decide⟩
  | string isString =>
    obtain ⟨more, rfl⟩ := isString.exists_cons
    exact ⟨'"', more, rfl, by decide⟩
  | array each => exact ⟨'[', _, rfl, by decide⟩
  | object names values => exact ⟨'{', _, rfl, by decide⟩
  | number isNumeral =>
    obtain ⟨c, more, rfl, hc⟩ := exists_digit_or_minus isNumeral
    refine ⟨c, more, rfl, ?_⟩
    rcases hc with rfl | hc
    · decide
    · have hspace : c ≠ ' ' := ne_of_isDigit hc rfl
      have hfeed : c ≠ '\n' := ne_of_isDigit hc rfl
      have htab : c ≠ '\t' := ne_of_isDigit hc rfl
      have hreturn : c ≠ '\r' := ne_of_isDigit hc rfl
      exact ⟨by simp [isBlank, hspace, hfeed, htab, hreturn], ne_of_isDigit hc rfl⟩

/-- What is read of a text where a value is expected. -/
def Reads (value : ValueReader) (t : Text) (j : Json) : Prop :=
  ∀ rest, Ends rest → value (skipBlanks (t ++ rest)) = .ok (j, rest)

theorem ends_cons {c : Char} (hc : c ∈ [',', ']', '}']) (rest : Text) : Ends (c :: rest) := by
  intro b hb
  obtain rfl : c = b := Option.some.inj hb
  exact hc

/-- There are at least as many characters up to a closing one as there are texts between commas. -/
theorem length_le_length_join (texts : List Text) (close : Char) (rest : Text) :
    texts.length ≤ (Text.join [','] texts ++ close :: rest).length := by
  induction texts with
  | nil => exact Nat.zero_le _
  | cons first texts ih =>
    cases texts with
    | nil =>
      simp only [Text.join, List.length_append, List.length_cons, List.length_nil]
      omega
    | cons second texts =>
      simp only [Text.join, List.length_append, List.length_cons] at ih ⊢
      omega

theorem exists_join_cons (first : Text) (more : List Text) :
    ∃ u, Text.join [','] (first :: more) = first ++ u := by
  cases more with
  | nil => exact ⟨[], by simp [Text.join]⟩
  | cons second more => exact ⟨',' :: Text.join [','] (second :: more), by simp [Text.join]⟩

theorem takeItems_of_reads {items : List (Text × Json)} (hne : items ≠ [])
    (hread : ∀ item ∈ items, Reads value item.1 item.2) (hfuel : items.length ≤ fuel)
    (rest : Text) :
    takeItems value fuel (Text.join [','] (items.map Prod.fst) ++ ']' :: rest) =
      .ok (items.map Prod.snd, rest) := by
  induction items generalizing fuel with
  | nil => contradiction
  | cons item items ih =>
    obtain ⟨hitem, hmore⟩ := List.forall_mem_cons.mp hread
    obtain _ | fuel := fuel
    · simp at hfuel
    cases items with
    | nil =>
      have hlast := hitem (']' :: rest) (ends_cons (by decide) rest)
      have hclose : skipBlanks (']' :: rest) = ']' :: rest :=
        skipBlanks_of_not_blank (by decide) rest
      simp only [List.map_cons, List.map_nil, Text.join]
      rw [takeItems, hlast]
      simp only [hclose]
    | cons next items =>
      have hfuel : (next :: items).length ≤ fuel := Nat.le_of_succ_le_succ hfuel
      have hnext := ih (List.cons_ne_nil _ _) hmore hfuel
      have htext : Text.join [','] ((item :: next :: items).map Prod.fst) ++ ']' :: rest =
          item.1 ++ ',' :: (Text.join [','] ((next :: items).map Prod.fst) ++ ']' :: rest) := by
        simp [Text.join]
      have hfirst := hitem _ (ends_cons (by decide : ',' ∈ [',', ']', '}'])
        (Text.join [','] ((next :: items).map Prod.fst) ++ ']' :: rest))
      rw [htext, takeItems, hfirst]
      simp only [skipBlanks_of_not_blank (by decide : isBlank ',' = false), hnext]
      rfl

theorem takeMember_of_reads {m : WrittenMember} (hname : IsStringText m.nameText m.name)
    (hvalue : Reads value m.valueText m.value) (hrest : Ends rest) :
    takeMember value (m.text ++ rest) = .ok ((m.name, m.value), rest) := by
  obtain ⟨more, hmore, hstring⟩ :=
    takeString_of_isStringText hname (':' :: (m.valueText ++ rest))
  have htext : m.text ++ rest = m.nameText ++ ':' :: (m.valueText ++ rest) := by
    simp [WrittenMember.text]
  have hquote : skipBlanks ('"' :: more) = '"' :: more := skipBlanks_of_not_blank (by decide) more
  have hcolon : skipBlanks (':' :: (m.valueText ++ rest)) = ':' :: (m.valueText ++ rest) :=
    skipBlanks_of_not_blank (by decide) _
  rw [htext, hmore, takeMember, hquote]
  simp only [hstring, hcolon, hvalue rest hrest]

theorem takeMembers_of_reads {members : List WrittenMember} (hne : members ≠ [])
    (hnames : ∀ m ∈ members, IsStringText m.nameText m.name)
    (hvalues : ∀ m ∈ members, Reads value m.valueText m.value) (hfuel : members.length ≤ fuel)
    (rest : Text) :
    takeMembers value fuel (Text.join [','] (members.map WrittenMember.text) ++ '}' :: rest) =
      .ok (members.map fun m => (m.name, m.value), rest) := by
  induction members generalizing fuel with
  | nil => contradiction
  | cons m members ih =>
    obtain ⟨hname, hnames⟩ := List.forall_mem_cons.mp hnames
    obtain ⟨hvalue, hvalues⟩ := List.forall_mem_cons.mp hvalues
    obtain _ | fuel := fuel
    · simp at hfuel
    cases members with
    | nil =>
      have hends : Ends ('}' :: rest) := ends_cons (by decide) rest
      have hlast := takeMember_of_reads hname hvalue hends
      have hclose : skipBlanks ('}' :: rest) = '}' :: rest :=
        skipBlanks_of_not_blank (by decide) rest
      simp only [List.map_cons, List.map_nil, Text.join]
      rw [takeMembers, hlast]
      simp only [hclose]
    | cons next members =>
      have hfuel : (next :: members).length ≤ fuel := Nat.le_of_succ_le_succ hfuel
      have hnext := ih (List.cons_ne_nil _ _) hnames hvalues hfuel
      have htext : Text.join [','] ((m :: next :: members).map WrittenMember.text) ++ '}' :: rest =
          m.text ++
            ',' :: (Text.join [','] ((next :: members).map WrittenMember.text) ++ '}' :: rest) := by
        simp [Text.join]
      have hfirst := takeMember_of_reads hname hvalue
        (ends_cons (by decide : ',' ∈ [',', ']', '}'])
          (Text.join [','] ((next :: members).map WrittenMember.text) ++ '}' :: rest))
      rw [htext, takeMembers, hfirst]
      simp only [skipBlanks_of_not_blank (by decide : isBlank ',' = false), hnext]
      rfl

/-- Behind an opening bracket or brace, what is not closed at once is read part by part. -/
theorem takeValue_open {c : Char} (hc : isBlank c = false) (depth : Nat) (t : Text) :
    (c ≠ ']' → takeValue (depth + 1) ('[' :: c :: t) =
      (takeItems (takeValue depth) (c :: t).length (c :: t)).map fun (items, rest) =>
        (.array items, rest)) ∧
    (c ≠ '}' → takeValue (depth + 1) ('{' :: c :: t) =
      (takeMembers (takeValue depth) (c :: t).length (c :: t)).map fun (members, rest) =>
        (ofMembers members, rest)) := by
  have hskip := skipBlanks_of_not_blank hc t
  constructor
  · intro hopen
    rw [takeValue.eq_def]
    simp only [hskip]
    iterate 5 rw [if_neg (by decide)]
    rw [if_pos (beq_self_eq_true _)]
    split
    · next heq => exact absurd (List.cons.inj heq).1 hopen
    · rfl
  · intro hopen
    rw [takeValue.eq_def]
    simp only [hskip]
    iterate 6 rw [if_neg (by decide)]
    rw [if_pos (beq_self_eq_true _)]
    split
    · next heq => exact absurd (List.cons.inj heq).1 hopen
    · rfl

theorem takeValue_array {items : List (Text × Json)}
    (hread : ∀ item ∈ items, Reads (takeValue depth) item.1 item.2)
    (hstart : ∀ item ∈ items, ∃ c more, item.1 = c :: more ∧ isBlank c = false ∧ c ≠ ']')
    (rest : Text) :
    takeValue (depth + 1) ('[' :: (Text.join [','] (items.map Prod.fst) ++ ']' :: rest)) =
      .ok (.array (items.map Prod.snd), rest) := by
  cases items with
  | nil => rfl
  | cons item items =>
    have hfuel : (item :: items).length ≤
        (Text.join [','] ((item :: items).map Prod.fst) ++ ']' :: rest).length := by
      have hlength := length_le_length_join ((item :: items).map Prod.fst) ']' rest
      rwa [List.length_map] at hlength
    have hitems := takeItems_of_reads (List.cons_ne_nil _ _) hread hfuel rest
    obtain ⟨c, more, hmore, hc, hopen⟩ := hstart item List.mem_cons_self
    obtain ⟨u, hu⟩ := exists_join_cons item.1 (items.map Prod.fst)
    have htext : Text.join [','] ((item :: items).map Prod.fst) ++ ']' :: rest =
        c :: (more ++ u ++ ']' :: rest) := by
      rw [List.map_cons, hu, hmore]
      rfl
    rw [htext] at hitems ⊢
    rw [(takeValue_open hc _ _).1 hopen, hitems]
    rfl

theorem takeValue_object {members : List WrittenMember}
    (hnames : ∀ m ∈ members, IsStringText m.nameText m.name)
    (hvalues : ∀ m ∈ members, Reads (takeValue depth) m.valueText m.value) (rest : Text) :
    takeValue (depth + 1)
        ('{' :: (Text.join [','] (members.map WrittenMember.text) ++ '}' :: rest)) =
      .ok (ofMembers (members.map fun m => (m.name, m.value)), rest) := by
  cases members with
  | nil => rfl
  | cons m members =>
    have hfuel : (m :: members).length ≤
        (Text.join [','] ((m :: members).map WrittenMember.text) ++ '}' :: rest).length := by
      have hlength := length_le_length_join ((m :: members).map WrittenMember.text) '}' rest
      rwa [List.length_map] at hlength
    have hmembers := takeMembers_of_reads (List.cons_ne_nil _ _) hnames hvalues hfuel rest
    obtain ⟨more, hmore⟩ := (hnames m List.mem_cons_self).exists_cons
    obtain ⟨u, hu⟩ := exists_join_cons m.text (members.map WrittenMember.text)
    have htext : Text.join [','] ((m :: members).map WrittenMember.text) ++ '}' :: rest =
        '"' :: (more ++ ':' :: m.valueText ++ u ++ '}' :: rest) := by
      rw [List.map_cons, hu, WrittenMember.text, hmore]
      rfl
    rw [htext] at hmembers ⊢
    rw [(takeValue_open (by decide) _ _).2 (by decide), hmembers]
    rfl

theorem takeValue_number (depth : Nat) {c : Char} (hc : c = '-' ∨ Text.isDigit c = true)
    (t : Text) :
    takeValue depth (c :: t) =
      (takeNumber (c :: t)).map fun (n, rest) => (.number n, rest) := by
  have hnumber : (c == '-' || Text.isDigit c) = true := by simpa using hc
  have hne : ∀ b, (b == '-' || Text.isDigit b) = false → ¬ (c == b) = true := by
    intro b hb hcb
    rw [eq_of_beq hcb, hb] at hnumber
    contradiction
  cases depth
  all_goals
    show (if (c == 'n') = true then _ else if (c == 't') = true then _ else
      if (c == 'f') = true then _ else if (c == '"') = true then _ else
        if (c == '-' || Text.isDigit c) = true then _ else _) = _
    rw [if_neg (hne 'n' rfl), if_neg (hne 't' rfl), if_neg (hne 'f' rfl), if_neg (hne '"' rfl),
      if_pos hnumber]

theorem takeValue_string (depth : Nat) (t : Text) :
    takeValue depth ('"' :: t) =
      (takeString t.length [] t).map fun (s, rest) => (.string s, rest) := by
  cases depth with
  | zero => rfl
  | succ depth => rfl

theorem reads_of_takeValue (h : IsText depth t j)
    (hread : ∀ rest, Ends rest → takeValue depth (t ++ rest) = .ok (j, rest)) :
    Reads (takeValue depth) t j := by
  intro rest hrest
  obtain ⟨c, more, rfl, hc, -⟩ := h.exists_cons
  rw [List.cons_append, skipBlanks_of_not_blank hc, ← List.cons_append]
  exact hread rest hrest

/-- A text that stands for a value is read as that value, wherever the value ends. -/
theorem takeValue_of_isText (h : IsText depth t j) :
    ∀ rest, Ends rest → takeValue depth (t ++ rest) = .ok (j, rest) := by
  induction h with
  | @null depth =>
    intro rest _
    cases depth with
    | zero => rfl
    | succ depth => rfl
  | @yes depth =>
    intro rest _
    cases depth with
    | zero => rfl
    | succ depth => rfl
  | @no depth =>
    intro rest _
    cases depth with
    | zero => rfl
    | succ depth => rfl
  | @number depth t numeral n isNumeral stands =>
    intro rest hrest
    have hread := takeNumber_of_isNumeralText isNumeral stands hrest
    obtain ⟨c, more, rfl, hc⟩ := exists_digit_or_minus isNumeral
    rw [List.cons_append] at hread ⊢
    rw [takeValue_number depth hc, hread]
    rfl
  | @string depth t s isString =>
    intro rest _
    obtain ⟨more, hmore, hread⟩ := takeString_of_isStringText isString rest
    rw [hmore, takeValue_string, hread]
    rfl
  | @array depth items each ih =>
    intro rest hrest
    rw [List.cons_append, List.append_assoc, List.singleton_append]
    apply takeValue_array
    · intro item hitem
      exact reads_of_takeValue (each item hitem) (ih item hitem)
    · intro item hitem
      exact (each item hitem).exists_cons
  | @object depth members names values ih =>
    intro rest hrest
    rw [List.cons_append, List.append_assoc, List.singleton_append]
    apply takeValue_object names
    intro m hm
    exact reads_of_takeValue (values m hm) (ih m hm)

theorem membersText_eq_join (members : List (Text × Json)) :
    membersText members =
      Text.join [','] (members.map fun m => stringText m.1 ++ ':' :: m.2.text) := by
  induction members with
  | nil => rfl
  | cons m members ih =>
    cases members with
    | nil => rfl
    | cons next members =>
      have hjoin : Text.join [','] ((m :: next :: members).map fun m =>
          stringText m.1 ++ ':' :: m.2.text) =
            stringText m.1 ++ ':' :: m.2.text ++ [','] ++ membersText (next :: members) := by
        rw [ih]
        rfl
      rw [hjoin, List.append_assoc _ [','], List.singleton_append]
      rfl

/-- What stands for a value is read as that value. -/
theorem parse_of_isText (h : IsText depthLimit t j) : parse t = .ok j := by
  have hread := reads_of_takeValue h (takeValue_of_isText h) [] (by simp [Ends])
  rw [List.append_nil] at hread
  simp only [parse, hread]
  rfl

end Values

end Infill.Json
