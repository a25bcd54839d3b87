import Infill.Proofs.Bounds.Token

/-!
# Reading takes no step out of bounds

Tokens, placeholders and settings that are read by positions are always read, and what comes of it is
what reading without positions gives.
-/

namespace Infill

theorem ok_bind {α β : Type} (a : α) (f : α → Except Breach β) : (Except.ok a >>= f) = f a := rfl

section Tokens

theorem Argument.keeps_shape (name : Text) : (Argument.shape name).keeps 1 := by
  simp [Argument.shape, Shape.inOrder, Shape.keeps]

/-- The argument of a token is there as soon as its shape is. -/
theorem Argument.firstGroup?_shape (name token : Text) :
    (Argument.shape name).firstGroup? token = .ok (Argument.ofToken? name token) := by
  rw [Shape.firstGroup?_eq (Argument.keeps_shape name), Argument.matchWhole?_shape, Option.map_map]
  exact congrArg Except.ok (congrFun Option.map_id _)

theorem ParsedModifier.firstGroup?_widthShape (token : Text) :
    ParsedModifier.widthShape.firstGroup? token = .ok (ParsedModifier.widthDigits? token) := by
  have hkeeps : ParsedModifier.widthShape.keeps 1 := by
    simp [ParsedModifier.widthShape, Shape.inOrder, Shape.keeps]
  rw [Shape.firstGroup?_eq hkeeps, ParsedModifier.matchWhole?_widthShape, Option.map_map]
  exact congrArg Except.ok (congrFun Option.map_id _)

theorem ParsedModifier.ofTokenWithin_eq [Pattern.Limit] (token : Text) :
    ParsedModifier.ofTokenWithin token = .ok (ParsedModifier.ofToken token) := by
  rw [ParsedModifier.ofTokenWithin, ParsedModifier.ofToken]
  simp only [Argument.firstGroup?_shape, ParsedModifier.firstGroup?_widthShape, ok_bind]
  by_cases hbase64 : token = "base64".toList
  · rw [if_pos hbase64, if_pos hbase64]
    rfl
  rw [if_neg hbase64, if_neg hbase64]
  cases Argument.ofToken? "select".toList token with
  | some pattern =>
    dsimp only
    cases Pattern.compile (Pattern.anchored pattern) <;> rfl
  | none =>
    cases Argument.ofToken? "dict".toList token with
    | some key => rfl
    | none =>
      cases Argument.ofToken? "default".toList token with
      | some value => rfl
      | none =>
        cases ParsedModifier.widthDigits? token with
        | some digits => rfl
        | none => cases ParsedModifier.names.any (Text.startsWith token) <;> rfl

/-- A chain can always be read. -/
theorem Chain.parseWithin_eq [Pattern.Limit] (raw : Text) : Chain.parseWithin raw = .ok (Chain.parse raw) := by
  have htokens : ParsedModifier.ofTokenWithin = fun token => pure (ParsedModifier.ofToken token) :=
    funext ParsedModifier.ofTokenWithin_eq
  rw [Chain.parseWithin, htokens]
  simp only [List.mapM_pure]
  rfl

end Tokens

section Placeholders

variable {d : Dialect}

theorem Dialect.targetWithin_eq {t : Text} {r : Reading} (h : d.shape.match? t = some r) :
    d.targetWithin r = .ok (d.target r) := by
  cases d with
  | secret =>
    rw [targetWithin, Reading.index_eq (Shape.isSome_group?_of_match h (by decide)),
      Reading.index_eq (Shape.isSome_group?_of_match h (by decide))]
    rfl
  | reference =>
    rw [targetWithin, Reading.index_eq (Shape.isSome_group?_of_match h (by decide))]
    rfl

theorem Dialect.opensWithin?_eq (d : Dialect) (t : Text) : d.opensWithin? t = .ok (d.opens? t) := by
  rw [opensWithin?, opens?]
  split
  · next h => rw [h, Option.map_none]
  · next r h =>
    rw [h, targetWithin_eq h]
    rfl

theorem Utf8.size_reverse (t : Text) : Utf8.size t.reverse = Utf8.size t := by
  induction t with
  | nil => rfl
  | cons c t ih =>
    rw [List.reverse_cons, Utf8.size_append, ih, Utf8.size_cons, Utf8.size_cons, Nat.add_comm]
    rfl

/-- A scan by positions finds what a scan finds.  `base` is the byte at which the text seen since the
last placeholder starts. -/
theorem Dialect.findFrom_eq {skip start base : Nat} {seen t : Text}
    (hstart : start + Utf8.size (t.take skip) = base + Utf8.size seen) :
    d.findFrom skip start t =
      .ok (Template.occurrencesFrom base (Template.scan d skip seen t).holes) := by
  -- Both scans go on character by character; behind a placeholder the literal text starts anew.
  induction t generalizing skip start base seen with
  | nil => cases skip <;> rfl
  | cons c t ih =>
    cases skip with
    | succ skip =>
      rw [List.take_succ_cons, Utf8.size_cons, ← Nat.add_assoc] at hstart
      exact ih hstart
    | zero =>
      rw [List.take_zero] at hstart
      rw [findFrom, opensWithin?_eq, ok_bind, Template.scan]
      cases hopens : d.opens? (c :: t) with
      | none =>
        refine ih ?_
        rw [List.take_zero, Utf8.size_cons]
        simp only [Utf8.size, List.foldl_nil] at hstart ⊢
        omega
      | some p =>
        obtain ⟨rest, htext, hwritten⟩ := opens?_eq_some_iff.mp hopens
        obtain ⟨b, text, hp⟩ := List.exists_cons_of_ne_nil hwritten.ne_nil
        rw [hp, List.cons_append] at htext
        obtain ⟨rfl, rfl⟩ := List.cons.inj htext
        have hfirst : base + Utf8.size seen.reverse = start := by
          rw [Utf8.size_reverse, ← hstart]
          rfl
        have hmore : d.findFrom (p.text.length - 1) (start + (Utf8.encodeChar c).length)
            (text ++ rest) =
              .ok (Template.occurrencesFrom (start + Utf8.size p.text)
                (Template.scan d (p.text.length - 1) [] (text ++ rest)).holes) := by
          refine ih ?_
          rw [hp, List.length_cons, Nat.add_sub_cancel, List.take_left, Utf8.size_cons,
            Nat.add_assoc]
          rfl
        simp only [hmore, ok_bind, Template.occurrencesFrom, hfirst]
        rfl

/-- Placeholders can always be found. -/
theorem Dialect.findWithin_eq (d : Dialect) (line : Text) : d.findWithin line = .ok (d.find line) :=
  findFrom_eq rfl

end Placeholders

section Settings

open Settings

theorem Settings.unquoteWithin?_eq (quote : Char) (t : Text) :
    unquoteWithin? quote t = .ok (unquote? quote t) := by
  cases t with
  | nil => rfl
  | cons c t =>
    rw [unquoteWithin?, unquote?]
    split
    · cases hcut : cutAt? (· == quote) t with
      | none => rw [Utf8.find?_of_cutAt?_none hcut, Option.map_none]
      | some parts =>
        obtain ⟨a, -, rfl⟩ := eq_append_of_cutAt? hcut
        simp only [Utf8.find?_of_cutAt? hcut, Utf8.part_beginning]
        rfl
    · rfl

theorem Settings.valueWithin_eq (raw : Text) : valueWithin raw = .ok (valueOf raw) := by
  rw [valueWithin, valueOf]
  simp only [unquoteWithin?_eq, ok_bind]
  cases (unquote? '"' raw).or ((unquote? '\'' raw).or (unquote? '`' raw)) with
  | some quoted => rfl
  | none =>
    dsimp only
    cases hcut : cutAt? isCommentMark raw with
    | none =>
      rw [Utf8.find?_of_cutAt?_none hcut]
      rfl
    | some parts =>
      obtain ⟨a, -, rfl⟩ := eq_append_of_cutAt? hcut
      simp only [Utf8.find?_of_cutAt? hcut, Utf8.part_beginning]
      rfl

theorem Settings.length_encodeChar_delimiter {c : Char} (h : isDelimiter c) :
    (Utf8.encodeChar c).length = 1 := by
  simp only [isDelimiter, Bool.or_eq_true, beq_iff_eq] at h
  rcases h with rfl | rfl <;> rfl

theorem Settings.readLineWithin_eq (raw : Text) : readLineWithin raw = .ok (readLine raw) := by
  rw [readLineWithin, readLine]
  generalize Text.trim raw = line
  cases line with
  | nil => rfl
  | cons c rest =>
    dsimp only
    cases isCommentMark c with
    | true => rfl
    | false =>
      cases c == '[' && (c :: rest).getLast? == some ']' with
      | true => rfl
      | false =>
        cases hcut : cutAt? isDelimiter (c :: rest) with
        | none =>
          rw [Utf8.find?_of_cutAt?_none hcut]
          rfl
        | some parts =>
          obtain ⟨a, ha, htext⟩ := eq_append_of_cutAt? hcut
          have hbefore : Utf8.part (c :: rest) 0 (Utf8.size parts.1) = .ok parts.1 := by
            rw [htext]
            exact Utf8.part_beginning _ _
          have hafter : Utf8.part (c :: rest) (Utf8.size parts.1 + 1) (Utf8.size (c :: rest)) =
              .ok parts.2 := by
            have hend := Utf8.part_end (parts.1 ++ [a]) parts.2
            rw [Utf8.size_append, Utf8.size_cons, length_encodeChar_delimiter ha, List.append_assoc,
              List.singleton_append, ← htext] at hend
            exact hend
          rw [Utf8.find?_of_cutAt? hcut]
          simp only [hbefore, hafter, ok_bind, valueWithin_eq, Bool.false_eq_true, if_false]
          by_cases hkey : Text.trim parts.1 = []
          · rw [if_pos hkey, if_pos hkey]
            rfl
          · rw [if_neg hkey, if_neg hkey]
            rfl

theorem Settings.readLinesWithin_eq (n : Nat) (visible : Bool) (lines : List Text) :
    readLinesWithin n visible lines = .ok (readLines n visible lines) := by
  induction lines generalizing n visible with
  | nil => rfl
  | cons raw lines ih =>
    rw [readLinesWithin, readLines, readLineWithin_eq, ok_bind]
    cases readLine raw with
    | skipped => exact ih _ _
    | header => exact ih _ _
    | faulty fault => rfl
    | entry key value =>
      simp only [ih, ok_bind]
      cases readLines (n + 1) visible lines <;> rfl

/-- A settings file can always be read, or refused with a failure. -/
theorem Settings.loadWithin_eq (disk : Disk) (path : Path) :
    loadWithin disk path = .ok (load disk path) := by
  have hparse : ∀ content, parseWithin content = .ok (parse content) := by
    intro content
    rw [parseWithin, parse, readLinesWithin_eq, ok_bind]
    cases readLines 1 true (Text.lines content) <;> rfl
  rw [loadWithin, load]
  cases unusable? disk path with
  | some reason => rfl
  | none =>
    dsimp only
    cases disk.read path with
    | error reason => rfl
    | ok content =>
      dsimp only
      rw [hparse, ok_bind]
      cases parse content <;> rfl

end Settings

end Infill
