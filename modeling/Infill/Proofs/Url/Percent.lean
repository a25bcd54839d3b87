import Infill.Proofs.Text
import Infill.Url.Segments

/-!
# Percent encoding

What an escaped text holds, and that it is read back (`unescape_escape`).  As `%` is always escaped
in a segment and the full stop never is, an escaped segment reads `.` or `..` only if it has been
that before (`isSingleDot_escape`, `isDoubleDot_escape`).
-/

namespace Infill

/-- The first byte of a character tells an ASCII character from all others. -/
theorem Utf8.exists_encodeChar_eq_cons (c : Char) : ∃ b rest, encodeChar c = b :: rest ∧
    (b.toNat = c.toNat ∨ 0x80 ≤ b.toNat) := by
  have hvalid : c.toNat < 0x110000 := by
    rcases c.valid with h | h
    · exact Nat.lt_trans h (by decide)
    · exact h.2
  rw [encodeChar]
  split
  · exact ⟨_, _, rfl, Or.inl (by rw [UInt8.toNat_ofNat']; omega)⟩
  · split
    · exact ⟨_, _, rfl, Or.inr (by rw [UInt8.toNat_ofNat']; omega)⟩
    · split
      · exact ⟨_, _, rfl, Or.inr (by rw [UInt8.toNat_ofNat']; omega)⟩
      · exact ⟨_, _, rfl, Or.inr (by rw [UInt8.toNat_ofNat']; omega)⟩

/-- Lower case makes nothing but letters. -/
theorem Text.eq_of_lowerAscii_eq {c d : Char} (hd : isLetter d = false) (h : lowerAscii c = d) :
    c = d := by
  rw [lowerAscii] at h
  split at h
  · next hupper =>
    have hletter : ∀ n, n < 91 → 65 ≤ n → isLetter (Char.ofNat (n + 32)) = true := by decide
    have hfrom : 65 ≤ c.toNat := hupper.1
    have hto : c.toNat ≤ 90 := hupper.2
    rw [← h, hletter c.toNat (by omega) hfrom] at hd
    contradiction
  · exact h

namespace Url

variable {isEscaped : Char → Bool} {c : Char} {t rest : Text}

theorem escape_cons_of_plain (hc : isEscaped c = false) (t : Text) :
    escape isEscaped (c :: t) = c :: escape isEscaped t := by
  rw [escape, List.flatMap_cons, if_neg (by simp [hc])]
  rfl

/-- An escaped character begins with the digits of its first byte. -/
theorem escape_cons_of_escaped (hc : isEscaped c = true) (t : Text) :
    ∃ b rest, escape isEscaped (c :: t) =
        '%' :: hexDigit (b / 16) :: hexDigit (b % 16) :: rest ∧ b < 0x100 ∧
          (b = c.toNat ∨ 0x80 ≤ b) := by
  obtain ⟨b, bytes, hbytes, hb⟩ := Utf8.exists_encodeChar_eq_cons c
  refine ⟨b.toNat, bytes.flatMap escapeByte ++ escape isEscaped t, ?_, b.toNat_lt, hb⟩
  rw [escape, List.flatMap_cons, if_pos hc, hbytes, List.flatMap_cons, List.append_assoc]
  rfl

theorem escape_eq_nil_iff : escape isEscaped t = [] ↔ t = [] := by
  constructor
  · intro h
    cases t with
    | nil => rfl
    | cons c t =>
      cases hc : isEscaped c with
      | false =>
        rw [escape_cons_of_plain hc] at h
        contradiction
      | true =>
        obtain ⟨b, rest, hescape, -⟩ := escape_cons_of_escaped hc t
        rw [hescape] at h
        contradiction
  · rintro rfl
    rfl

/-- The characters of an escaped text are plain ones, percent signs and digits. -/
theorem mem_escape (h : c ∈ escape isEscaped t) :
    (c ∈ t ∧ isEscaped c = false) ∨ c = '%' ∨ ∃ n < 16, c = hexDigit n := by
  obtain ⟨d, hd, hmem⟩ := List.mem_flatMap.mp h
  split at hmem
  · obtain ⟨b, -, hdigit⟩ := List.mem_flatMap.mp hmem
    have hb := b.toNat_lt
    simp only [escapeByte, List.mem_cons, List.not_mem_nil, or_false] at hdigit
    rcases hdigit with hc | hc | hc
    · exact Or.inr (Or.inl hc)
    · exact Or.inr (Or.inr ⟨b.toNat / 16, by omega, hc⟩)
    · exact Or.inr (Or.inr ⟨b.toNat % 16, by omega, hc⟩)
  · next hplain =>
    obtain rfl := List.mem_singleton.mp hmem
    exact Or.inl ⟨hd, by simpa using hplain⟩

theorem slash_not_mem_escape (h : '/' ∈ t → isEscaped '/' = true) : '/' ∉ escape isEscaped t := by
  intro hmem
  rcases mem_escape hmem with ⟨hslash, hplain⟩ | hpercent | ⟨n, hn, hdigit⟩
  · rw [h hslash] at hplain
    contradiction
  · exact absurd hpercent (by decide)
  · have hdigits : ∀ n, n < 16 → '/' ≠ hexDigit n := by decide
    exact hdigits n hn hdigit

/-- Where no percent sign is, nothing has been escaped. -/
theorem escape_eq_self (h : '%' ∉ escape isEscaped t) : escape isEscaped t = t := by
  induction t with
  | nil => rfl
  | cons c t ih =>
    cases hc : isEscaped c with
    | false =>
      rw [escape_cons_of_plain hc] at h ⊢
      rw [ih (List.not_mem_of_not_mem_cons h)]
    | true =>
      obtain ⟨b, rest, hescape, -⟩ := escape_cons_of_escaped hc t
      rw [hescape] at h
      exact absurd List.mem_cons_self h

section Unescaping

theorem unescape_cons_of_ne (hc : c ≠ '%') (t : Text) :
    unescape (c :: t) = Utf8.encodeChar c ++ unescape t := by
  rw [unescape]
  intro high low more heq
  exact absurd heq hc

/-- A byte is read back from its two digits. -/
theorem unescape_escapeByte (b : UInt8) (t : Text) :
    unescape (escapeByte b ++ t) = b :: unescape t := by
  have hbound := b.toNat_lt
  have hdigit : ∀ n, n < 16 → Text.digitValue? 16 (hexDigit n) = some n := by decide
  have hread : Text.natOfDigits? 16 [hexDigit (b.toNat / 16), hexDigit (b.toNat % 16)] =
      some b.toNat := by
    simp only [Text.natOfDigits?, List.foldl_cons, List.foldl_nil,
      hdigit (b.toNat / 16) (by omega), hdigit (b.toNat % 16) (by omega)]
    apply congrArg some
    omega
  simp only [escapeByte, List.cons_append, List.nil_append, unescape, hread, UInt8.ofNat_toNat]

theorem unescape_escapeBytes (bytes : Bytes) (t : Text) :
    unescape (bytes.flatMap escapeByte ++ t) = bytes ++ unescape t := by
  induction bytes with
  | nil => rfl
  | cons b bytes ih =>
    rw [List.flatMap_cons, List.append_assoc, unescape_escapeByte, ih, List.cons_append]

/-- What has been escaped is read back as its bytes, if the percent sign is escaped as well. -/
theorem unescape_escape (hpercent : isEscaped '%' = true) (t : Text) :
    unescape (escape isEscaped t) = Utf8.encode t := by
  induction t with
  | nil => rfl
  | cons c t ih =>
    rw [Utf8.encode_cons, ← ih]
    by_cases hc : isEscaped c = true
    · rw [escape, List.flatMap_cons, if_pos hc, unescape_escapeBytes]
      rfl
    · have hne : c ≠ '%' := by
        rintro rfl
        exact hc hpercent
      rw [escape_cons_of_plain (by simpa using hc), unescape_cons_of_ne hne]

end Unescaping

section Dots

theorem eq_of_lower_escape_dot (h : (escape isEscaped t).map Text.lowerAscii = '.' :: rest) :
    ∃ more, t = '.' :: more ∧ (escape isEscaped more).map Text.lowerAscii = rest := by
  cases t with
  | nil => contradiction
  | cons c t =>
    cases hc : isEscaped c with
    | false =>
      rw [escape_cons_of_plain hc, List.map_cons, List.cons.injEq] at h
      exact ⟨t, by rw [Text.eq_of_lowerAscii_eq (by decide) h.1], h.2⟩
    | true =>
      obtain ⟨b, rest', hescape, -⟩ := escape_cons_of_escaped hc t
      rw [hescape, List.map_cons, List.cons.injEq] at h
      exact absurd h.1 (by decide)

variable (hpercent : isEscaped '%' = true) (hdot : isEscaped '.' = false)
include hpercent hdot

/-- No full stop has been escaped. -/
theorem lower_escape_ne_percent :
    (escape isEscaped t).map Text.lowerAscii ≠ '%' :: '2' :: 'e' :: rest := by
  intro h
  cases t with
  | nil => contradiction
  | cons c t =>
    cases hc : isEscaped c with
    | false =>
      rw [escape_cons_of_plain hc, List.map_cons, List.cons.injEq] at h
      rw [Text.eq_of_lowerAscii_eq (by decide) h.1, hpercent] at hc
      contradiction
    | true =>
      obtain ⟨b, rest', hescape, hbyte, hb⟩ := escape_cons_of_escaped hc t
      simp only [hescape, List.map_cons, List.cons.injEq] at h
      obtain ⟨-, hhigh, hlow, -⟩ := h
      have htwo : ∀ n, n < 16 → Text.lowerAscii (hexDigit n) = '2' → n = 2 := by decide
      have hfourteen : ∀ n, n < 16 → Text.lowerAscii (hexDigit n) = 'e' → n = 14 := by decide
      have hdivided := htwo (b / 16) (by omega) hhigh
      have hremains := hfourteen (b % 16) (by omega) hlow
      have hcode : c.toNat = '.'.toNat := by
        have : '.'.toNat = 46 := rfl
        omega
      rw [Char.toNat_inj.mp hcode, hdot] at hc
      contradiction

theorem isSingleDot_escape : isSingleDot (escape isEscaped t) = true ↔ t = ['.'] := by
  constructor
  · intro h
    simp only [isSingleDot, List.contains_cons, List.contains_nil, Bool.or_false, Bool.or_eq_true,
      beq_iff_eq] at h
    rcases h with h | h
    · obtain ⟨more, rfl, hmore⟩ := eq_of_lower_escape_dot h
      rw [escape_eq_nil_iff.mp (List.map_eq_nil_iff.mp hmore)]
    · exact absurd h (lower_escape_ne_percent hpercent hdot)
  · rintro rfl
    rw [escape_cons_of_plain hdot]
    rfl

theorem isDoubleDot_escape : isDoubleDot (escape isEscaped t) = true ↔ t = ['.', '.'] := by
  constructor
  · intro h
    simp only [isDoubleDot, List.contains_cons, List.contains_nil, Bool.or_false, Bool.or_eq_true,
      beq_iff_eq] at h
    rcases h with h | h | h | h
    · obtain ⟨more, rfl, hmore⟩ := eq_of_lower_escape_dot h
      obtain ⟨last, rfl, hlast⟩ := eq_of_lower_escape_dot hmore
      rw [escape_eq_nil_iff.mp (List.map_eq_nil_iff.mp hlast)]
    · obtain ⟨more, rfl, hmore⟩ := eq_of_lower_escape_dot h
      exact absurd hmore (lower_escape_ne_percent hpercent hdot)
    · exact absurd h (lower_escape_ne_percent hpercent hdot)
    · exact absurd h (lower_escape_ne_percent hpercent hdot)
  · rintro rfl
    rw [escape_cons_of_plain hdot, escape_cons_of_plain hdot]
    rfl

end Dots

end Url

end Infill
