import Infill.Pattern.Estimate
import Infill.Proofs.Modifier.Writing

/-!
# Arguments in parentheses

Which argument a token has whose name is followed by a text in parentheses.  The white space at the
ends of the text and the quotes around the rest do not belong to it, unless nothing else is there
(`Chain.parse_argument`): a pair of quotes holds a quote, and white space is an argument.
-/

namespace Infill

/-- The names of the modifiers that take any text as their argument. -/
inductive Modifier.Takes : Text → (Text → Modifier) → Prop
  | dict : Takes "dict".toList .dict
  | default : Takes "default".toList .default

namespace Argument

variable {inner argument before after : Text} {q : Char}

/-- An argument without quotes at its ends is all that stands between the white space. -/
theorem shortest?_plain (hargument : argument ≠ []) (hline : '\n' ∉ argument)
    (htrimmed : Text.trimEnd argument = argument)
    (hquote : ∀ c, argument.getLast? = some c → isQuote c = false)
    (hafter : ∀ c ∈ after, Text.isBlank c) :
    shortest? (argument ++ after) = some argument := by
  have hcore : Text.trimEnd (argument ++ after) = argument := by
    rw [Text.trimEnd_append_of_blank hafter, htrimmed]
  obtain ⟨c, hlast⟩ : ∃ c, argument.getLast? = some c :=
    ⟨_, List.getLast?_eq_some_getLast hargument⟩
  simp only [shortest?, hcore, hlast, hquote c hlast, Bool.false_eq_true, false_and, if_false,
    List.take_left, hargument, hline, or_self]

theorem read?_plain (hargument : argument ≠ []) (hline : '\n' ∉ argument)
    (htrimmed : Text.trim argument = argument)
    (hhead : ∀ c, argument.head? = some c → isQuote c = false)
    (hlast : ∀ c, argument.getLast? = some c → isQuote c = false)
    (hbefore : ∀ c ∈ before, Text.isBlank c) (hafter : ∀ c ∈ after, Text.isBlank c) :
    read? (before ++ argument ++ after) = some argument := by
  obtain ⟨c, rest, rfl⟩ := List.exists_cons_of_ne_nil hargument
  have hc := Text.not_blank_of_trimmed htrimmed
  have hend : Text.trimEnd (c :: rest) = c :: rest := by
    rwa [Text.trim_cons_of_not_blank hc, ← Text.trimEnd_cons_of_not_blank hc] at htrimmed
  have htrim : Text.trimStart (before ++ (c :: rest) ++ after) = c :: (rest ++ after) := by
    rw [List.append_assoc, Text.trimStart_append_of_blank hbefore, List.cons_append,
      Text.trimStart_cons_of_not_blank hc]
  rw [read?, htrim]
  simp only [hhead c rfl, Bool.false_eq_true, if_false]
  exact shortest?_plain hargument hline hend hlast hafter

/-- The second of two quotes with nothing between them is the argument. -/
theorem read?_noneQuoted (hq : isQuote q) (hbefore : ∀ c ∈ before, Text.isBlank c)
    (hafter : ∀ c ∈ after, Text.isBlank c) :
    read? (before ++ [q, q] ++ after) = some [q] := by
  have hblank := not_blank_of_isQuote hq
  have htrim : Text.trimStart (before ++ [q, q] ++ after) = q :: q :: after := by
    rw [List.append_assoc, Text.trimStart_append_of_blank hbefore, List.cons_append,
      Text.trimStart_cons_of_not_blank hblank]
    rfl
  have hcore : Text.trimEnd (q :: after) = [q] := by
    rw [Text.trimEnd_cons_of_not_blank hblank, Text.trimEnd_eq_nil_iff.mpr hafter]
  have hfeed : '\n' ≠ q := by
    rintro rfl
    exact absurd hq (by decide)
  have hshortest : shortest? (q :: after) = some [q] := by
    simp [shortest?, hcore, hfeed]
  rw [read?, htrim]
  simp only [hq, if_true, hshortest, Option.orElse_some]

/-- Of white space only the last character is the argument. -/
theorem read?_blank {c : Char} (hblank : ∀ b ∈ before ++ [c], Text.isBlank b) (hfeed : c ≠ '\n') :
    read? (before ++ [c]) = some [c] := by
  rw [read?, Text.trimStart_eq_nil_iff.mpr hblank]
  simp [hfeed]

end Argument

section Tokens

variable [Pattern.Limit] {name inner : Text} {make : Text → Modifier}

theorem Modifier.Takes.call (h : Modifier.Takes name make) (argument : Text) :
    (make argument).Call name argument := by
  cases h with
  | dict => exact .dict argument
  | default => exact .default argument

/-- A token without an argument is malformed. -/
theorem Modifier.Takes.ofToken_none (h : Modifier.Takes name make)
    (hinner : Argument.read? inner = none) :
    ParsedModifier.ofToken (name ++ '(' :: (inner ++ [')'])) =
      .ignored (name ++ '(' :: (inner ++ [')'])) .malformed := by
  have hread := @Argument.ofToken?_call [] name inner (by simp)
  rw [List.nil_append, hinner] at hread
  cases h with
  | dict =>
    rw [ParsedModifier.ofToken, if_neg (by simp), Argument.ofToken?_of_other rfl, hread,
      Argument.ofToken?_of_other rfl]
    rfl
  | default =>
    rw [ParsedModifier.ofToken, if_neg (by simp), Argument.ofToken?_of_other rfl,
      Argument.ofToken?_of_other rfl, hread]
    rfl

/-- A token in which no bar stands makes a chain by itself. -/
theorem Chain.parse_call {c : Char} (hc : Text.isBlank c = false) (hname : '|' ∉ c :: name)
    (hbar : '|' ∉ inner) :
    (Chain.parse (c :: name ++ '(' :: (inner ++ [')']))).parsed =
      [ParsedModifier.ofToken (c :: name ++ '(' :: (inner ++ [')']))] := by
  have hone : '|' ∉ c :: name ++ '(' :: (inner ++ [')']) := by
    simp only [List.cons_append, List.mem_cons, List.mem_append, not_or] at hname ⊢
    simp [hname, hbar]
  have htrim : Text.trim (c :: name ++ '(' :: (inner ++ [')'])) =
      c :: name ++ '(' :: (inner ++ [')']) := by
    have hend : Text.trimEnd (name ++ '(' :: (inner ++ [')'])) = name ++ '(' :: (inner ++ [')']) := by
      rw [← List.cons_append, ← List.append_assoc,
        Text.trimEnd_append_cons_of_not_blank (by decide)]
      rfl
    rw [List.cons_append, Text.trim_cons_of_not_blank hc, hend]
  rw [Chain.parse, pieces_of_not_mem hone, List.map_singleton, htrim]
  rfl

theorem Modifier.Takes.parse_eq (h : Modifier.Takes name make) (hbar : '|' ∉ inner) :
    (Chain.parse (name ++ '(' :: (inner ++ [')']))).parsed =
      [ParsedModifier.ofToken (name ++ '(' :: (inner ++ [')']))] := by
  cases h with
  | dict => exact Chain.parse_call (by decide) (by decide) hbar
  | default => exact Chain.parse_call (by decide) (by decide) hbar

theorem Modifier.Takes.parse_of_read (h : Modifier.Takes name make) (hbar : '|' ∉ inner)
    {argument : Text} (hinner : Argument.read? inner = some argument) :
    (Chain.parse (name ++ '(' :: (inner ++ [')']))).parsed =
      [.recognized (make argument)] := by
  have hread := (h.call argument).ofToken_eq (List.forall_mem_nil _) hinner
  rw [h.parse_eq hbar]
  exact congrArg ([·]) hread

end Tokens

/-- The argument between two parentheses.  Quotes with a text between them and white space at the
ends do not belong to it; a second quote right behind the first, or the last character of nothing
but white space, is the argument itself. -/
theorem Chain.parse_argument [Pattern.Limit] {name inner : Text} {make : Text → Modifier}
    (h : Modifier.Takes name make) (hline : '\n' ∉ inner) (hbar : '|' ∉ inner) :
    let chain := Chain.parse (name ++ '(' :: (inner ++ [')']))
    (∀ q argument, Argument.isQuote q → Text.trim inner = q :: (argument ++ [q]) →
      argument ≠ [] → chain.parsed = [.recognized (make argument)]) ∧
    (Text.trim inner ≠ [] →
      (∀ c, (Text.trim inner).head? = some c → Argument.isQuote c = false) →
      (∀ c, (Text.trim inner).getLast? = some c → Argument.isQuote c = false) →
      chain.parsed = [.recognized (make (Text.trim inner))]) ∧
    (inner = [] →
      chain.parsed = [.ignored (name ++ '(' :: (inner ++ [')'])) .malformed]) ∧
    (∀ q, Argument.isQuote q → Text.trim inner = [q, q] →
      chain.parsed = [.recognized (make [q])]) ∧
    (∀ gap c, Text.trim inner = [] → inner = gap ++ [c] →
      chain.parsed = [.recognized (make [c])]) := by
  obtain ⟨before, after, hbefore, hafter, htext⟩ := Text.exists_padding inner
  have htrimmed := Text.trim_trim inner
  have hfeed : '\n' ∉ Text.trim inner := fun hmem => hline (Text.mem_of_mem_trim hmem)
  refine ⟨?quoted, ?plain, ?missing, ?noneQuoted, ?blank⟩
  case quoted =>
    intro q argument hq htrim hargument
    rw [htrim] at htext hfeed
    have hargumentFeed : '\n' ∉ argument := fun hmem =>
      hfeed (List.mem_cons_of_mem _ (List.mem_append_left _ hmem))
    have hread := Argument.read?_quoted hargument hargumentFeed hbefore hafter hq
    have hinner : inner = before ++ q :: (argument ++ q :: after) := by
      rw [htext]
      simp
    exact h.parse_of_read hbar (hinner ▸ hread)
  case plain =>
    intro hne hhead hlast
    have hread := Argument.read?_plain hne hfeed htrimmed hhead hlast hbefore hafter
    rw [← htext] at hread
    exact h.parse_of_read hbar hread
  case missing =>
    rintro rfl
    exact (h.parse_eq hbar).trans (congrArg ([·]) (h.ofToken_none rfl))
  case noneQuoted =>
    intro q hq htrim
    rw [htrim] at htext
    exact h.parse_of_read hbar (htext ▸ Argument.read?_noneQuoted hq hbefore hafter)
  case blank =>
    rintro gap c htrim rfl
    have hc : c ≠ '\n' := by
      rintro rfl
      simp at hline
    exact h.parse_of_read hbar (Argument.read?_blank (Text.trim_eq_nil_iff.mp htrim) hc)

section Instances

open scoped Pattern.Estimate

/-- White space outside and inside of quotes. -/
theorem Chain.parse_argument_padded :
    '\n' ∉ " \t' a\" '".toList ∧ '|' ∉ " \t' a\" '".toList ∧
      (Chain.parse "default( \t' a\" ')".toList).parsed =
        [.recognized (.default " a\" ".toList)] := by
  have hfeed : '\n' ∉ " \t' a\" '".toList := by decide
  have hbar : '|' ∉ " \t' a\" '".toList := by decide
  obtain ⟨hquoted, -⟩ := Chain.parse_argument .default hfeed hbar
  exact ⟨hfeed, hbar, hquoted '\'' " a\" ".toList (by decide) (by decide) (by decide)⟩

/-- Nothing between two quotes is not the empty text, and white space between the parentheses is not
left out. -/
theorem Chain.parse_argument_never_empty :
    (Chain.parse "default(\"\")".toList).parsed = [.recognized (.default ['"'])] ∧
      (Chain.parse "default(\"\")".toList).parsed ≠ [.recognized (.default [])] ∧
      (Chain.parse "dict( )".toList).parsed = [.recognized (.dict [' '])] ∧
      (Chain.parse "dict( )".toList).parsed ≠ [.ignored "dict( )".toList .malformed] := by
  have hquote : (Chain.parse "default(\"\")".toList).parsed = [.recognized (.default ['"'])] := rfl
  have hblank : (Chain.parse "dict( )".toList).parsed = [.recognized (.dict [' '])] := rfl
  refine ⟨hquote, ?_, hblank, ?_⟩
  · rw [hquote]
    simp
  · rw [hblank]
    simp

end Instances

end Infill
