import Infill.Modifier.Chain
import Infill.Pattern.Estimate
import Infill.Proofs.CharSet
import Infill.Proofs.Placeholder.Spelling

/-!
# Writing modifiers

A chain of modifiers can be written in many ways: with white space around its tokens, in front of
parentheses and inside them, with either quote, with zeros in front of a width, and with bars that
nothing stands between.  Each of them is read back to the modifiers that have been written, also as
part of a placeholder (`parse_chainText`).
-/

namespace Infill

section Writings

variable [Pattern.Limit]

/-- The name and the argument of a modifier in parentheses. -/
inductive Modifier.Call : Modifier → Text → Text → Prop
  | select {pattern : Text} {compiled : Pattern}
      (accepted : Pattern.compile (Pattern.anchored pattern) = .ok compiled) :
      Call (.select pattern) "select".toList pattern
  | dict (key : Text) : Call (.dict key) "dict".toList key
  | default (value : Text) : Call (.default value) "default".toList value

/-- The ways to write a modifier. -/
inductive Modifier.TokenText : Modifier → Text → Prop
  | base64 : TokenText .base64 "base64".toList
  | indent (zeros : Nat) {width : Nat} (fits : width < Nat.pow 2 64) :
      TokenText (.indent width) ("indent".toList ++ (List.replicate zeros '0' ++ Text.decimal width))
  | call {m : Modifier} {name argument gap before after : Text} {q : Char}
      (call : m.Call name argument) (written : argument ≠ []) (noBar : '|' ∉ argument)
      (oneLine : '\n' ∉ argument) (blankGap : ∀ c ∈ gap, Text.isBlank c)
      (blankBefore : ∀ c ∈ before, Text.isBlank c) (blankAfter : ∀ c ∈ after, Text.isBlank c)
      (quote : Argument.isQuote q) :
      TokenText m
        (name ++ (gap ++ '(' :: (before ++ q :: (argument ++ q :: after) ++ [')'])))

/-- The ways to write what stands between two bars: a modifier or none. -/
inductive SlotText : Option Modifier → Text → Prop
  | empty {gap : Text} (blank : ∀ c ∈ gap, Text.isBlank c) : SlotText none gap
  | token {m : Modifier} {before text after : Text} (blankBefore : ∀ c ∈ before, Text.isBlank c)
      (blankAfter : ∀ c ∈ after, Text.isBlank c) (writes : m.TokenText text) :
      SlotText (some m) (before ++ text ++ after)

/-- The ways to write a chain of modifiers. -/
inductive ChainText : List Modifier → Text → Prop
  | last {slot : Option Modifier} {text : Text} (writes : SlotText slot text) :
      ChainText slot.toList text
  | more {slot : Option Modifier} {ms : List Modifier} {text rest : Text}
      (writes : SlotText slot text) (more : ChainText ms rest) :
      ChainText (slot.toList ++ ms) (text ++ '|' :: rest)

end Writings

section Arguments

variable {argument before after gap : Text} {q : Char}

theorem not_blank_of_isQuote (h : Argument.isQuote q) : Text.isBlank q = false := by
  simp only [Argument.isQuote, Bool.or_eq_true, beq_iff_eq] at h
  rcases h with rfl | rfl <;> decide

/-- Behind an opening quote the argument reaches to the last quote. -/
theorem Argument.shortest?_quoted (hargument : argument ≠ []) (hline : '\n' ∉ argument)
    (hafter : ∀ c ∈ after, Text.isBlank c) (hq : isQuote q) :
    shortest? (argument ++ q :: after) = some argument := by
  have hcore : Text.trimEnd (argument ++ q :: after) = argument ++ [q] := by
    rw [Text.trimEnd_append_cons_of_not_blank (not_blank_of_isQuote hq),
      Text.trimEnd_eq_nil_iff.mpr hafter]
  have hlong : 2 ≤ (argument ++ [q]).length := by
    have := List.length_pos_of_ne_nil hargument
    rw [List.length_append, List.length_singleton]
    omega
  have htake : (argument ++ q :: after).take ((argument ++ [q]).length - 1) = argument := by
    rw [List.length_append, List.length_singleton, Nat.add_sub_cancel, List.take_left]
  simp only [shortest?, hcore, List.getLast?_concat, hq, hlong, and_self, if_true, htake,
    hargument, hline, or_self, if_false]

theorem Argument.read?_quoted (hargument : argument ≠ []) (hline : '\n' ∉ argument)
    (hbefore : ∀ c ∈ before, Text.isBlank c) (hafter : ∀ c ∈ after, Text.isBlank c)
    (hq : isQuote q) : read? (before ++ q :: (argument ++ q :: after)) = some argument := by
  have htrim : Text.trimStart (before ++ q :: (argument ++ q :: after)) =
      q :: (argument ++ q :: after) := by
    rw [Text.trimStart_append_of_blank hbefore,
      Text.trimStart_cons_of_not_blank (not_blank_of_isQuote hq)]
  simp only [read?, htrim, hq, if_true, shortest?_quoted hargument hline hafter hq,
    Option.orElse_some]

/-- The argument of a token is what stands between the parentheses. -/
theorem Argument.ofToken?_call (name inner : Text) (hgap : ∀ c ∈ gap, Text.isBlank c) :
    ofToken? name (name ++ (gap ++ '(' :: (inner ++ [')']))) = read? inner := by
  have htrim : Text.trimStart (gap ++ '(' :: (inner ++ [')'])) = '(' :: (inner ++ [')']) := by
    rw [Text.trimStart_append_of_blank hgap, Text.trimStart_cons_of_not_blank (by decide)]
  simp only [ofToken?, afterLead?_append, htrim, List.getLast?_concat, List.dropLast_concat]

theorem Argument.ofToken?_of_other {name token : Text} (h : afterLead? name token = none) :
    ofToken? name token = none := by
  simp only [ofToken?, h]

end Arguments

section Tokens

variable [Pattern.Limit] {m : Modifier} {text : Text}

/-- The width of an indentation is what its digits say, if it fits into 64 bits. -/
theorem ofToken_width (zeros width : Nat) :
    ParsedModifier.ofToken ("indent".toList ++ (List.replicate zeros '0' ++ Text.decimal width)) =
      if width < ParsedModifier.widthLimit then .recognized (.indent width)
      else .ignored ("indent".toList ++ (List.replicate zeros '0' ++ Text.decimal width))
        .widthOutOfRange := by
  have hall : (List.replicate zeros '0' ++ Text.decimal width).all Unicode.decimalDigits.has := by
    rw [List.all_eq_true]
    exact fun c hc => Unicode.has_decimalDigits (Text.isDigit_of_mem_zeros_decimal hc)
  have hne : List.replicate zeros '0' ++ Text.decimal width ≠ [] :=
    List.append_ne_nil_of_right_ne_nil _ Nat.toDigits_ne_nil
  have hread := Text.natOfDigits?_decimal zeros width
  generalize List.replicate zeros '0' ++ Text.decimal width = digits at hall hne hread ⊢
  have hdigits : ParsedModifier.widthDigits? ("indent".toList ++ digits) = some digits := by
    simp only [ParsedModifier.widthDigits?, afterLead?_append, hall, Bool.and_true, bne_iff_ne, hne,
      ne_eq, not_false_eq_true, if_true]
  rw [ParsedModifier.ofToken, if_neg (by simp), Argument.ofToken?_of_other rfl,
    Argument.ofToken?_of_other rfl, Argument.ofToken?_of_other rfl, hdigits]
  simp only [ParsedModifier.ofWidth, hread]

theorem ofToken_indent (zeros : Nat) {width : Nat} (hfits : width < Nat.pow 2 64) :
    ParsedModifier.ofToken ("indent".toList ++ (List.replicate zeros '0' ++ Text.decimal width)) =
      .recognized (.indent width) :=
  (ofToken_width zeros width).trans (if_pos hfits)

theorem Modifier.Call.ofToken_eq {name argument inner gap : Text} (h : m.Call name argument)
    (hgap : ∀ c ∈ gap, Text.isBlank c) (hinner : Argument.read? inner = some argument) :
    ParsedModifier.ofToken (name ++ (gap ++ '(' :: (inner ++ [')']))) = .recognized m := by
  have hread := Argument.ofToken?_call name inner hgap
  rw [hinner] at hread
  cases h with
  | select accepted =>
    rw [ParsedModifier.ofToken, if_neg (by simp), hread]
    simp only [accepted]
  | dict =>
    rw [ParsedModifier.ofToken, if_neg (by simp), Argument.ofToken?_of_other rfl, hread]
  | default =>
    rw [ParsedModifier.ofToken, if_neg (by simp), Argument.ofToken?_of_other rfl,
      Argument.ofToken?_of_other rfl, hread]

/-- A token that has been written for a modifier is read as that modifier. -/
theorem Modifier.TokenText.ofToken_eq (h : m.TokenText text) :
    ParsedModifier.ofToken text = .recognized m := by
  cases h with
  | base64 => rfl
  | indent zeros fits => exact ofToken_indent zeros fits
  | call call written noBar oneLine blankGap blankBefore blankAfter quote =>
    exact call.ofToken_eq blankGap
      (Argument.read?_quoted written oneLine blankBefore blankAfter quote)

theorem Modifier.Call.exists_name_eq_cons {name argument : Text} (h : m.Call name argument) :
    ∃ c rest, name = c :: rest ∧ Text.isBlank c = false ∧ '|' ∉ name := by
  cases h with
  | select => exact ⟨'s', "elect".toList, rfl, by decide, by decide⟩
  | dict => exact ⟨'d', "ict".toList, rfl, by decide, by decide⟩
  | default => exact ⟨'d', "efault".toList, rfl, by decide, by decide⟩

/-- There is no white space at the ends of a token. -/
theorem Modifier.TokenText.exists_ends (h : m.TokenText text) :
    ∃ c middle d, text = c :: (middle ++ [d]) ∧ Text.isBlank c = false ∧ Text.isBlank d = false := by
  cases h with
  | base64 => exact ⟨'b', "ase6".toList, '4', rfl, by decide, by decide⟩
  | @indent zeros width =>
    obtain ⟨digits, d, hdigits⟩ :=
      (List.eq_nil_or_concat' (Text.decimal width)).resolve_left Nat.toDigits_ne_nil
    have hd : Text.isDigit d := Text.isDigit_of_mem_decimal (n := width) (by simp [hdigits])
    refine ⟨'i', "ndent".toList ++ (List.replicate zeros '0' ++ digits), d, ?_, by decide, ?_⟩
    · rw [hdigits]
      simp
    · by_contra hblank
      simp [Text.isDigit_of_blank (by simpa using hblank)] at hd
  | @call _ name argument gap before after q call =>
    obtain ⟨c, rest, rfl, hc, -⟩ := call.exists_name_eq_cons
    exact ⟨c, rest ++ (gap ++ '(' :: (before ++ q :: (argument ++ q :: after))), ')', by simp, hc,
      by decide⟩

theorem Modifier.TokenText.trim_eq (h : m.TokenText text) : Text.trim text = text := by
  obtain ⟨c, middle, d, rfl, hc, hd⟩ := h.exists_ends
  rw [Text.trim_cons_of_not_blank hc, Text.trimEnd_append_cons_of_not_blank hd]
  rfl

theorem Modifier.TokenText.ne_nil (h : m.TokenText text) : text ≠ [] := by
  obtain ⟨c, middle, d, rfl, -⟩ := h.exists_ends
  exact List.cons_ne_nil _ _

/-- No token holds a bar. -/
theorem Modifier.TokenText.not_mem_bar (h : m.TokenText text) : '|' ∉ text := by
  cases h with
  | base64 => decide
  | @indent zeros width =>
    intro hmem
    rcases List.mem_append.mp hmem with hmem | hmem
    · exact absurd hmem (by decide)
    · exact absurd (Text.isDigit_of_mem_zeros_decimal hmem) (by decide)
  | @call _ name argument gap before after q call written noBar _ blankGap blankBefore blankAfter
      quote =>
    obtain ⟨-, -, -, -, hname⟩ := call.exists_name_eq_cons
    have hq : '|' ≠ q := by
      rintro rfl
      exact absurd quote (by decide)
    have hbar : Text.isBlank '|' = false := by decide
    simp [hname, Spelling.not_mem_of_blank blankGap hbar, Spelling.not_mem_of_blank blankBefore hbar,
      Spelling.not_mem_of_blank blankAfter hbar, hq, noBar]

end Tokens

section Chains

variable [Pattern.Limit] {ms : List Modifier} {text : Text}

/-- The tokens on both sides of a bar are read by themselves. -/
theorem Chain.parse_append (text rest : Text) : (Chain.parse (text ++ '|' :: rest)).parsed =
    (Chain.parse text).parsed ++ (Chain.parse rest).parsed := by
  simp only [Chain.parse, pieces_append_sep, List.map_append, List.filter_append]

theorem SlotText.parse_eq {slot : Option Modifier} (h : SlotText slot text) :
    (Chain.parse text).parsed = slot.toList.map ParsedModifier.recognized := by
  cases h with
  | empty blank =>
    rw [Chain.parse, pieces_of_not_mem (Spelling.not_mem_of_blank blank (by decide))]
    simp [Text.trim_eq_nil_iff.mpr blank]
  | @token m before text after blankBefore blankAfter writes =>
    have hbar : '|' ∉ before ++ text ++ after := by
      simp [Spelling.not_mem_of_blank blankBefore, Spelling.not_mem_of_blank blankAfter,
        writes.not_mem_bar, (by decide : Text.isBlank '|' = false)]
    have htrim : Text.trim (before ++ text ++ after) = text := by
      rw [Text.trim_padded blankBefore blankAfter, writes.trim_eq]
    rw [Chain.parse, pieces_of_not_mem hbar, List.map_singleton, htrim]
    simp [writes.ne_nil, writes.ofToken_eq]

/-- A chain that has been written is read back. -/
theorem ChainText.parse_eq (h : ChainText ms text) :
    (Chain.parse text).parsed = ms.map ParsedModifier.recognized := by
  induction h with
  | last writes => exact writes.parse_eq
  | more writes _ ih => rw [Chain.parse_append, writes.parse_eq, ih, List.map_append]

theorem ChainText.cons_bar (h : ChainText ms text) : ChainText ms ('|' :: text) :=
  .more (.empty fun _ hc => absurd hc List.not_mem_nil) h

end Chains

/-- Behind a text without `$`, the first placeholder is the one that starts with the first `$`. -/
theorem Dialect.find_written {d : Dialect} {before after : Text} {p : Placeholder}
    (hbefore : '$' ∉ before) (hwritten : Written d p.text p.target p.modifiers) :
    d.find (before ++ p.text ++ after) =
      { placeholder := p, start := Utf8.size before, stop := Utf8.size (before ++ p.text) } ::
        Template.occurrencesFrom (Utf8.size (before ++ p.text)) (Template.ofLine d after).holes := by
  have hline := Template.ofLine_of_opens (d.noStart_of_no_dollar hbefore (p.text ++ after))
    (opens?_written hwritten after)
  rw [Dialect.find, List.append_assoc, hline, Template.occurrences]
  simp only [Template.occurrencesFrom, Nat.zero_add, Utf8.size_append]

/-- A chain that has been written is read back, and so it is if it stands in a placeholder. -/
theorem Chain.parse_chainText [Pattern.Limit] {ms : List Modifier} {text : Text} (h : ChainText ms text) :
    (Chain.parse text).parsed = ms.map ParsedModifier.recognized ∧
    ∀ lead beforeKey key afterKey before after, (∀ c ∈ lead, Text.isBlank c) →
      (∀ c ∈ beforeKey, Text.isBlank c) → (∀ c ∈ afterKey, Text.isBlank c) →
      IsName ['}', '|'] key → '}' ∉ text → '$' ∉ before →
      let s := Spelling.reference lead beforeKey key afterKey (some text)
      Dialect.reference.find (before ++ s.text ++ after) =
          { placeholder := { target := .setting key, modifiers := '|' :: text, text := s.text },
            start := Utf8.size before, stop := Utf8.size (before ++ s.text) } ::
          Template.occurrencesFrom (Utf8.size (before ++ s.text))
            (Template.ofLine .reference after).holes ∧
        (Chain.parse ('|' :: text)).parsed = ms.map ParsedModifier.recognized := by
  refine ⟨h.parse_eq, ?_⟩
  intro lead beforeKey key afterKey before after hlead hbeforeKey hafterKey hkey hbrace hbefore s
  have hwritten : Written .reference s.text (.setting key) ('|' :: text) :=
    Spelling.written_reference hlead hbeforeKey hafterKey hkey (by simpa using hbrace)
  exact ⟨Dialect.find_written (p := ⟨_, _, s.text⟩) hbefore hwritten, h.cons_bar.parse_eq⟩

open scoped Pattern.Estimate in
/-- An argument that ends like the token around it, a missing modifier, and zeros. -/
theorem Chain.parse_chainText_mixed :
    ChainText [.select "^a.*".toList, .default "x' )".toList, .indent 7]
        "select (\t'^a.*' ) | |default('x' )') |indent007".toList ∧
      (Chain.parse "select (\t'^a.*' ) | |default('x' )') |indent007".toList).parsed =
        [.recognized (.select "^a.*".toList), .recognized (.default "x' )".toList),
          .recognized (.indent 7)] ∧
      (Dialect.reference.find
        "a: $\x7b ref:K |select (\t'^a.*' ) | |default('x' )') |indent007\x7d".toList).map
          (fun o => o.placeholder.modifiers) =
        ["|select (\t'^a.*' ) | |default('x' )') |indent007".toList] := by
  obtain ⟨compiled, hcompiled⟩ : ∃ compiled,
      Pattern.compile (Pattern.anchored "^a.*".toList) = .ok compiled := ⟨_, rfl⟩
  have hblank : ∀ c ∈ [' '], Text.isBlank c := List.forall_mem_singleton.mpr rfl
  have htab : ∀ c ∈ ['\t'], Text.isBlank c := List.forall_mem_singleton.mpr rfl
  have hnone : ∀ c ∈ ([] : Text), Text.isBlank c := fun _ hc => absurd hc List.not_mem_nil
  have hselect : Modifier.TokenText (.select "^a.*".toList) "select (\t'^a.*' )".toList :=
    @Modifier.TokenText.call _ _ _ _ [' '] ['\t'] [' '] '\'' (.select hcompiled) (by decide)
      (by decide) (by decide) hblank htab hblank (by decide)
  have hdefault : Modifier.TokenText (.default "x' )".toList) "default('x' )')".toList :=
    @Modifier.TokenText.call _ _ _ _ [] [] [] '\'' (.default _) (by decide) (by decide) (by decide)
      hnone hnone hnone (by decide)
  have hindent : Modifier.TokenText (.indent 7) "indent007".toList := .indent 2 (by decide)
  have hchain : ChainText [.select "^a.*".toList, .default "x' )".toList, .indent 7]
      "select (\t'^a.*' ) | |default('x' )') |indent007".toList :=
    .more (@SlotText.token _ _ [] _ [' '] hnone hblank hselect) (.more (.empty hblank)
      (.more (@SlotText.token _ _ [] _ [' '] hnone hblank hdefault)
        (.last (@SlotText.token _ _ [] _ [] hnone hnone hindent))))
  obtain ⟨hparse, hfind⟩ := Chain.parse_chainText hchain
  obtain ⟨hfound, -⟩ := hfind [' '] [] "K".toList [' '] "a: ".toList [] hblank hnone hblank
    ⟨by decide, by decide, by simp⟩ (by decide) (by decide)
  have hline : "a: $\x7b ref:K |select (\t'^a.*' ) | |default('x' )') |indent007\x7d".toList =
      "a: ".toList ++ (Spelling.reference [' '] [] "K".toList [' ']
        (some "select (\t'^a.*' ) | |default('x' )') |indent007".toList)).text ++ [] := by decide
  refine ⟨hchain, hparse, ?_⟩
  rw [hline, hfound]
  rfl

end Infill
