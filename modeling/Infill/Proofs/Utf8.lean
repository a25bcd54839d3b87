import Infill.Proofs.Text

/-!
# Decoding and encoding

A stream is decoded to a text without a fault exactly if it is the encoding of the text
(`encode_of_decode?`, `decode?_encode`).  While a character is under way, `Begins` says that the bytes
read so far are those that every character starts with whose number starts with the bits read so far.

A text that starts with an ASCII character is found in any stream, whatever stands around it
(`decodeLossy_around`), and a text that a stream is decoded to in front stands there in the stream
(`decodeLossy_eq_append_iff`).
-/

namespace Infill.Utf8

theorem toNat_ofNat {n : Nat} (h : n.isValidChar) : (Char.ofNat n).toNat = n := by
  rw [Char.ofNat, dif_pos h]
  rfl

/-- A number without its last bits, six for each of `k` bytes. -/
def shifted : (k : Nat) → Nat → Nat
  | 0, v => v
  | k + 1, v => shifted k v / 64

/-- The `k` bytes with the last bits of a number. -/
def tail : (k : Nat) → Nat → Bytes
  | 0, _ => []
  | k + 1, v => UInt8.ofNat (0x80 + shifted k v % 64) :: tail k v

/-- Every character whose number starts with the bits of `p`, and goes on as `p` allows, is encoded
by the bytes that have been read and the bytes with the other bits. -/
structure Begins (p : Partial) (read : Bytes) : Prop where
  low : 0x80 ≤ p.low
  high : p.high ≤ 0xBF
  ends : ∀ v, shifted (p.more + 1) v = p.bits → p.low ≤ 0x80 + shifted p.more v % 64 →
    0x80 + shifted p.more v % 64 ≤ p.high → encodeChar (Char.ofNat v) = read ++ tail (p.more + 1) v

section Leads

variable {b v : Nat}

theorem encodeChar_one (hv : v < 0x80) : encodeChar (Char.ofNat v) = [UInt8.ofNat v] := by
  have hchar : v.isValidChar := Or.inl (by omega)
  simp only [encodeChar, toNat_ofNat hchar, if_pos hv]

theorem encodeChar_two (hlow : 0x80 ≤ v) (hhigh : v < 0x800) :
    encodeChar (Char.ofNat v) = UInt8.ofNat (0xC0 + v / 64) :: tail 1 v := by
  have hchar : v.isValidChar := Or.inl (by omega)
  simp only [encodeChar, toNat_ofNat hchar, if_neg (Nat.not_lt.mpr hlow), if_pos hhigh, tail,
    shifted]

theorem encodeChar_three (hlow : 0x800 ≤ v) (hhigh : v < 0x10000) (hchar : v.isValidChar) :
    encodeChar (Char.ofNat v) = UInt8.ofNat (0xE0 + v / 4096) :: tail 2 v := by
  have hlow' : ¬ v < 0x80 := by omega
  simp only [encodeChar, toNat_ofNat hchar, if_neg hlow', if_neg (Nat.not_lt.mpr hlow),
    if_pos hhigh, tail, shifted]

theorem encodeChar_four (hlow : 0x10000 ≤ v) (hhigh : v < 0x110000) :
    encodeChar (Char.ofNat v) = UInt8.ofNat (0xF0 + v / 262144) :: tail 3 v := by
  have hchar : v.isValidChar := Or.inr ⟨by omega, hhigh⟩
  have hlow' : ¬ v < 0x80 := by omega
  have hlow'' : ¬ v < 0x800 := by omega
  have hsecond : v / 4096 = v / 64 / 64 := by omega
  simp only [encodeChar, toNat_ofNat hchar, if_neg hlow', if_neg hlow'',
    if_neg (Nat.not_lt.mpr hlow), tail, shifted, hsecond]

end Leads

section Beginnings

variable {b : UInt8} {low high : Nat} (hlow : 0x80 ≤ low) (hhigh : high ≤ 0xBF)

theorem ofNat_eq_of_toNat {n : Nat} (h : n = b.toNat) : UInt8.ofNat n = b := by
  rw [h, UInt8.ofNat_toNat]

include hlow hhigh

theorem begins_two (hb : 0xC2 ≤ b.toNat ∧ b.toNat ≤ 0xDF) :
    Begins ⟨b.toNat - 0xC0, 0, low, high⟩ [b] := by
  refine ⟨hlow, hhigh, fun v hbits hfrom hto => ?_⟩
  simp only [shifted] at hbits hfrom hto
  rw [encodeChar_two (by omega) (by omega), ofNat_eq_of_toNat (by omega : 0xC0 + v / 64 = b.toNat),
    List.singleton_append]

theorem begins_three (hb : 0xE0 ≤ b.toNat ∧ b.toNat ≤ 0xEF)
    (hoverlong : b.toNat = 0xE0 → 0xA0 ≤ low) (hsurrogate : b.toNat = 0xED → high ≤ 0x9F) :
    Begins ⟨b.toNat - 0xE0, 1, low, high⟩ [b] := by
  refine ⟨hlow, hhigh, fun v hbits hfrom hto => ?_⟩
  simp only [shifted] at hbits hfrom hto
  have hchar : v.isValidChar := by
    rw [Nat.isValidChar]
    omega
  rw [encodeChar_three (by omega) (by omega) hchar,
    ofNat_eq_of_toNat (by omega : 0xE0 + v / 4096 = b.toNat), List.singleton_append]

theorem begins_four (hb : 0xF0 ≤ b.toNat ∧ b.toNat ≤ 0xF4)
    (hoverlong : b.toNat = 0xF0 → 0x90 ≤ low) (hbeyond : b.toNat = 0xF4 → high ≤ 0x8F) :
    Begins ⟨b.toNat - 0xF0, 2, low, high⟩ [b] := by
  refine ⟨hlow, hhigh, fun v hbits hfrom hto => ?_⟩
  simp only [shifted] at hbits hfrom hto
  rw [encodeChar_four (by omega) (by omega),
    ofNat_eq_of_toNat (by omega : 0xF0 + v / 262144 = b.toNat), List.singleton_append]

end Beginnings

theorem begins_of_ofLead? {b : UInt8} {p : Partial} (h : Partial.ofLead? b.toNat = some p) :
    Begins p [b] := by
  rw [Partial.ofLead?] at h
  split_ifs at h with h2 hE0 hED h3 hF0 hF4 h4
  · obtain rfl := Option.some.inj h
    exact begins_two (by omega) (by omega) h2
  · obtain rfl := Option.some.inj h
    have hbegins := begins_three (b := b) (by omega : 0x80 ≤ 0xA0) (by omega : 0xBF ≤ 0xBF)
      (by omega) (by omega) (by omega)
    rwa [hE0] at hbegins
  · obtain rfl := Option.some.inj h
    have hbegins := begins_three (b := b) (by omega : 0x80 ≤ 0x80) (by omega : 0x9F ≤ 0xBF)
      (by omega) (by omega) (by omega)
    rwa [hED] at hbegins
  · obtain rfl := Option.some.inj h
    exact begins_three (by omega) (by omega) (by omega) (by omega) (by omega)
  · obtain rfl := Option.some.inj h
    have hbegins := begins_four (b := b) (by omega : 0x80 ≤ 0x90) (by omega : 0xBF ≤ 0xBF)
      (by omega) (by omega) (by omega)
    rwa [hF0] at hbegins
  · obtain rfl := Option.some.inj h
    have hbegins := begins_four (b := b) (by omega : 0x80 ≤ 0x80) (by omega : 0x8F ≤ 0xBF)
      (by omega) (by omega) (by omega)
    rwa [hF4] at hbegins
  · obtain rfl := Option.some.inj h
    exact begins_four (by omega) (by omega) (by omega) (by omega) (by omega)

section Steps

variable {p : Partial} {read : Bytes} {b : UInt8}

/-- A byte that goes on with a character leaves fewer bits open. -/
theorem Begins.more (h : Begins p read) (hfrom : p.low ≤ b.toNat) (hto : b.toNat ≤ p.high) {n : Nat}
    (hmore : p.more = n + 1) :
    Begins { bits := p.bits * 64 + (b.toNat - 0x80), more := n } (read ++ [b]) := by
  obtain ⟨hlow, hhigh, hends⟩ := h
  refine ⟨Nat.le_refl _, Nat.le_refl _, fun v hv _ _ => ?_⟩
  have hbits : shifted (n + 1) v = p.bits * 64 + (b.toNat - 0x80) := hv
  have hbefore : shifted (n + 1 + 1) v = p.bits := by
    rw [shifted, hbits]
    omega
  have hbyte : 0x80 + shifted (n + 1) v % 64 = b.toNat := by
    rw [hbits]
    omega
  rw [hmore] at hends
  rw [hends v hbefore (by omega) (by omega), List.append_assoc, List.singleton_append, tail, hbyte,
    UInt8.ofNat_toNat]

/-- The last byte of a character gives it. -/
theorem Begins.last (h : Begins p read) (hfrom : p.low ≤ b.toNat) (hto : b.toNat ≤ p.high)
    (hmore : p.more = 0) :
    encodeChar (Char.ofNat (p.bits * 64 + (b.toNat - 0x80))) = read ++ [b] := by
  obtain ⟨hlow, hhigh, hends⟩ := h
  have hbits : shifted (0 + 1) (p.bits * 64 + (b.toNat - 0x80)) = p.bits := by
    simp only [shifted]
    omega
  have hbyte : 0x80 + shifted 0 (p.bits * 64 + (b.toNat - 0x80)) % 64 = b.toNat := by
    simp only [shifted]
    omega
  rw [hmore] at hends
  rw [hends _ hbits (by omega) (by omega), tail, tail, hbyte, UInt8.ofNat_toNat]

end Steps

/-- The bytes of the character that is under way, if there is one. -/
def Pending : Option Partial → Bytes → Prop
  | none, read => read = []
  | some p, read => Begins p read

/-- The text of what has been found. -/
abbrev Found.text (found : Found) : Text := found.filterMap id

theorem pending_start {b : UInt8} (hfine : (start b.toNat).1.all Option.isSome) :
    ∃ read, Pending (start b.toNat).2 read ∧ encode (start b.toNat).1.text ++ read = [b] := by
  rw [start] at hfine ⊢
  by_cases hone : b.toNat < 0x80
  · rw [if_pos hone]
    refine ⟨[], rfl, ?_⟩
    show encode [Char.ofNat b.toNat] ++ [] = [b]
    rw [encode, List.flatMap_singleton, encodeChar_one hone, UInt8.ofNat_toNat, List.append_nil]
  · rw [if_neg hone] at hfine ⊢
    cases hlead : Partial.ofLead? b.toNat with
    | none => simp [hlead] at hfine
    | some p => exact ⟨[b], begins_of_ofLead? hlead, rfl⟩

/-- Reading a byte without a fault: what has been found encodes to bytes that have been read. -/
theorem pending_feed {pending : Option Partial} {read : Bytes} (h : Pending pending read)
    {b : UInt8} (hfine : (feed pending b.toNat).1.all Option.isSome) :
    ∃ read', Pending (feed pending b.toNat).2 read' ∧
      encode (feed pending b.toNat).1.text ++ read' = read ++ [b] := by
  cases pending with
  | none =>
    obtain rfl := h
    exact pending_start hfine
  | some p =>
    rw [feed] at hfine ⊢
    split at hfine
    · next hrange =>
      rw [if_pos hrange]
      cases hmore : p.more with
      | zero =>
        refine ⟨[], rfl, ?_⟩
        show encode [Char.ofNat _] ++ [] = _
        rw [encode, List.flatMap_singleton, Begins.last h hrange.1 hrange.2 hmore, List.append_nil]
      | succ n => exact ⟨read ++ [b], Begins.more h hrange.1 hrange.2 hmore, rfl⟩
    · simp at hfine

theorem decodeFrom_cons (pending : Option Partial) (b : UInt8) (bytes : Bytes) :
    decodeFrom pending (b :: bytes) =
      (feed pending b.toNat).1 ++ decodeFrom (feed pending b.toNat).2 bytes := by
  rw [decodeFrom]

theorem encode_decodeFrom {pending : Option Partial} {read : Bytes} (h : Pending pending read)
    {bytes : Bytes} (hfine : (decodeFrom pending bytes).all Option.isSome) :
    encode (decodeFrom pending bytes).text = read ++ bytes := by
  induction bytes generalizing pending read with
  | nil =>
    cases pending with
    | none =>
      obtain rfl := h
      rfl
    | some p => simp [decodeFrom] at hfine
  | cons b bytes ih =>
    rw [decodeFrom_cons, List.all_append, Bool.and_eq_true] at hfine
    obtain ⟨read', hpending, hread⟩ := pending_feed h hfine.1
    rw [decodeFrom_cons, Found.text, List.filterMap_append, encode_append, ih hpending hfine.2,
      ← List.append_assoc, hread, List.append_assoc, List.singleton_append]

variable {bytes : Bytes} {t : Text}

theorem decode?_eq_some_iff :
    decode? bytes = some t ↔ (found bytes).all Option.isSome ∧ (found bytes).text = t := by
  rw [decode?]
  split
  · next hfine => simp only [hfine, true_and, Option.some_inj]
  · next hfault => simp only [hfault, false_and, reduceCtorEq]

/-- What a stream is decoded to encodes to the stream. -/
theorem encode_of_decode? (h : decode? bytes = some t) : encode t = bytes := by
  obtain ⟨hfine, rfl⟩ := decode?_eq_some_iff.mp h
  have hpending : Pending none [] := rfl
  exact encode_decodeFrom hpending hfine

/-- Where there is no fault, there is none to put another character for. -/
theorem decodeLossy_of_decode? (h : decode? bytes = some t) : decodeLossy bytes = t := by
  obtain ⟨hfine, rfl⟩ := decode?_eq_some_iff.mp h
  rw [decodeLossy, Found.text]
  generalize found bytes = all at hfine
  induction all with
  | nil => rfl
  | cons c all ih =>
    cases c with
    | none => simp at hfine
    | some c => simpa using ih (by simpa using hfine)

section Starts

/-- A byte that is read without a fault goes on with a character or ends one. -/
theorem feed_cases (pending : Option Partial) (b : Nat) :
    (∃ p, feed pending b = ([], some p)) ∨ (∃ c, feed pending b = ([some c], none)) ∨
      ∃ more next, feed pending b = (none :: more, next) := by
  have hstart : (∃ p, start b = ([], some p)) ∨ (∃ c, start b = ([some c], none)) ∨
      ∃ more next, start b = (none :: more, next) := by
    rw [start]
    split
    · exact Or.inr (Or.inl ⟨_, rfl⟩)
    · split
      · exact Or.inr (Or.inr ⟨_, _, rfl⟩)
      · exact Or.inl ⟨_, rfl⟩
  cases pending with
  | none => exact hstart
  | some p =>
    rw [feed]
    split
    · split
      · exact Or.inr (Or.inl ⟨_, rfl⟩)
      · exact Or.inl ⟨_, rfl⟩
    · exact Or.inr (Or.inr ⟨_, _, rfl⟩)

/-- The first character that is found stands at the start of the stream. -/
theorem eq_append_of_decodeFrom {pending : Option Partial} {read : Bytes}
    (h : Pending pending read) {c : Char} {more : Found}
    (hfound : decodeFrom pending bytes = some c :: more) :
    ∃ rest, read ++ bytes = encodeChar c ++ rest ∧ decodeFrom none rest = more := by
  induction bytes generalizing pending read with
  | nil => cases pending <;> simp [decodeFrom] at hfound
  | cons b bytes ih =>
    rw [decodeFrom_cons] at hfound
    have hpending := fun hfine => @pending_feed pending read h b hfine
    rcases feed_cases pending b.toNat with ⟨p, hfeed⟩ | ⟨c', hfeed⟩ | ⟨more', next, hfeed⟩
    · rw [hfeed] at hfound hpending
      obtain ⟨read', hbegins, hread⟩ := hpending rfl
      obtain ⟨rest, hrest, hmore⟩ := ih hbegins hfound
      refine ⟨rest, ?_, hmore⟩
      rw [← hrest, show read' = read ++ [b] from hread, List.append_assoc, List.singleton_append]
    · rw [hfeed, List.singleton_append, List.cons.injEq, Option.some_inj] at hfound
      rw [hfeed] at hpending
      obtain ⟨read', hnone, hread⟩ := hpending rfl
      obtain rfl : read' = [] := hnone
      have hchar : encodeChar c' = read ++ [b] := by
        rw [← hread, List.append_nil]
        exact (List.flatMap_singleton _ _).symm
      exact ⟨bytes, by rw [← hfound.1, hchar, List.append_assoc, List.singleton_append], hfound.2⟩
    · rw [hfeed, List.cons_append, List.cons.injEq] at hfound
      simp at hfound

/-- A text that is found in front stands at the start of the stream. -/
theorem exists_eq_encode_append {more : Found} (h : found bytes = t.map some ++ more) :
    ∃ rest, bytes = encode t ++ rest := by
  induction t generalizing bytes with
  | nil => exact ⟨bytes, rfl⟩
  | cons c t ih =>
    have hpending : Pending none [] := rfl
    obtain ⟨rest, hrest, hmore⟩ := eq_append_of_decodeFrom hpending h
    obtain ⟨rest', rfl⟩ := ih hmore
    exact ⟨rest', by rw [encode_cons, List.append_assoc, ← hrest, List.nil_append]⟩

end Starts

section Reading

variable {v : Nat}

/-- The bytes with the last bits of a number give its character. -/
theorem decodeFrom_tail {p : Partial} (hbits : shifted (p.more + 1) v = p.bits)
    (hlow : 0x80 ≤ p.low) (hfrom : p.low ≤ 0x80 + shifted p.more v % 64)
    (hto : 0x80 + shifted p.more v % 64 ≤ p.high) (rest : Bytes) :
    decodeFrom (some p) (tail (p.more + 1) v ++ rest) =
      some (Char.ofNat v) :: decodeFrom none rest := by
  -- The induction is on the bytes that come after the next one: `bits` gets six of the bits that are
  -- still open, and from the second byte on the range is that of all bytes of this kind.
  obtain ⟨bits, more, low, high⟩ := p
  simp only at hbits hlow hfrom hto
  have hbyte : (UInt8.ofNat (0x80 + shifted more v % 64)).toNat = 0x80 + shifted more v % 64 := by
    rw [UInt8.toNat_ofNat']
    omega
  have hnext : bits * 64 + (0x80 + shifted more v % 64 - 0x80) = shifted more v := by
    rw [← hbits, shifted]
    omega
  induction more generalizing bits low high with
  | zero =>
    rw [tail, List.cons_append, decodeFrom_cons, hbyte, feed, if_pos ⟨hfrom, hto⟩]
    simp only [hnext]
    rfl
  | succ more ih =>
    rw [tail, List.cons_append, decodeFrom_cons, hbyte, feed, if_pos ⟨hfrom, hto⟩]
    simp only [hnext, List.nil_append]
    have hbyte' : (UInt8.ofNat (0x80 + shifted more v % 64)).toNat =
        0x80 + shifted more v % 64 := by
      rw [UInt8.toNat_ofNat']
      omega
    refine ih (shifted (more + 1) v) 0x80 0xBF rfl (Nat.le_refl _) (by omega) (by omega) hbyte' ?_
    rw [shifted]
    omega

theorem decodeFrom_lead {b : Nat} {p : Partial} (hb : 0x80 ≤ b ∧ b < 256)
    (hlead : Partial.ofLead? b = some p) (rest : Bytes) :
    decodeFrom none (UInt8.ofNat b :: rest) = decodeFrom (some p) rest := by
  have hbyte : (UInt8.ofNat b).toNat = b := by
    rw [UInt8.toNat_ofNat']
    omega
  rw [decodeFrom_cons, hbyte, feed, start, if_neg (Nat.not_lt.mpr hb.1), hlead, List.nil_append]

theorem decodeFrom_two (hlow : 0x80 ≤ v) (hhigh : v < 0x800) (rest : Bytes) :
    decodeFrom none (encodeChar (Char.ofNat v) ++ rest) =
      some (Char.ofNat v) :: decodeFrom none rest := by
  have hlead : Partial.ofLead? (0xC0 + v / 64) = some ⟨v / 64, 0, 0x80, 0xBF⟩ := by
    rw [Partial.ofLead?, if_pos (by omega), Nat.add_sub_cancel_left]
  rw [encodeChar_two hlow hhigh, List.cons_append, decodeFrom_lead (by omega) hlead]
  exact decodeFrom_tail rfl (Nat.le_refl _) (Nat.le_add_right _ _)
    (by simp only [shifted]; omega) rest

theorem decodeFrom_three (hlow : 0x800 ≤ v) (hhigh : v < 0x10000) (hchar : v.isValidChar)
    (rest : Bytes) :
    decodeFrom none (encodeChar (Char.ofNat v) ++ rest) =
      some (Char.ofNat v) :: decodeFrom none rest := by
  obtain ⟨low, high, hlead, hrange⟩ : ∃ low high,
      Partial.ofLead? (0xE0 + v / 4096) = some ⟨v / 4096, 1, low, high⟩ ∧
        0x80 ≤ low ∧ low ≤ 0x80 + v / 64 % 64 ∧ 0x80 + v / 64 % 64 ≤ high := by
    rw [Nat.isValidChar] at hchar
    by_cases hE0 : 0xE0 + v / 4096 = 0xE0
    · refine ⟨0xA0, 0xBF, ?_, by omega⟩
      rw [Partial.ofLead?, if_neg (by omega), if_pos hE0, show v / 4096 = 0 by omega]
    by_cases hED : 0xE0 + v / 4096 = 0xED
    · refine ⟨0x80, 0x9F, ?_, by omega⟩
      rw [Partial.ofLead?, if_neg (by omega), if_neg hE0, if_pos hED, show v / 4096 = 0xD by omega]
    · refine ⟨0x80, 0xBF, ?_, by omega⟩
      rw [Partial.ofLead?, if_neg (by omega), if_neg hE0, if_neg hED, if_pos (by omega),
        Nat.add_sub_cancel_left]
  have hbits : shifted 2 v = v / 4096 := by
    simp only [shifted]
    omega
  rw [encodeChar_three hlow hhigh hchar, List.cons_append, decodeFrom_lead (by omega) hlead]
  exact @decodeFrom_tail v ⟨v / 4096, 1, low, high⟩ hbits hrange.1 hrange.2.1 hrange.2.2 rest

theorem decodeFrom_four (hlow : 0x10000 ≤ v) (hhigh : v < 0x110000) (rest : Bytes) :
    decodeFrom none (encodeChar (Char.ofNat v) ++ rest) =
      some (Char.ofNat v) :: decodeFrom none rest := by
  obtain ⟨low, high, hlead, hrange⟩ : ∃ low high,
      Partial.ofLead? (0xF0 + v / 262144) = some ⟨v / 262144, 2, low, high⟩ ∧
        0x80 ≤ low ∧ low ≤ 0x80 + v / 64 / 64 % 64 ∧ 0x80 + v / 64 / 64 % 64 ≤ high := by
    by_cases hF0 : 0xF0 + v / 262144 = 0xF0
    · refine ⟨0x90, 0xBF, ?_, by omega⟩
      rw [Partial.ofLead?, if_neg (by omega), if_neg (by omega), if_neg (by omega),
        if_neg (by omega), if_pos hF0, show v / 262144 = 0 by omega]
    by_cases hF4 : 0xF0 + v / 262144 = 0xF4
    · refine ⟨0x80, 0x8F, ?_, by omega⟩
      rw [Partial.ofLead?, if_neg (by omega), if_neg (by omega), if_neg (by omega),
        if_neg (by omega), if_neg hF0, if_pos hF4, show v / 262144 = 4 by omega]
    · refine ⟨0x80, 0xBF, ?_, by omega⟩
      rw [Partial.ofLead?, if_neg (by omega), if_neg (by omega), if_neg (by omega),
        if_neg (by omega), if_neg hF0, if_neg hF4, if_pos (by omega), Nat.add_sub_cancel_left]
  have hbits : shifted 3 v = v / 262144 := by
    simp only [shifted]
    omega
  rw [encodeChar_four hlow hhigh, List.cons_append, decodeFrom_lead (by omega) hlead]
  exact @decodeFrom_tail v ⟨v / 262144, 2, low, high⟩ hbits hrange.1 hrange.2.1 hrange.2.2 rest

/-- The bytes of a character give it, whatever stands behind them. -/
theorem decodeFrom_encodeChar (c : Char) (rest : Bytes) :
    decodeFrom none (encodeChar c ++ rest) = some c :: decodeFrom none rest := by
  have hchar : c.toNat.isValidChar := c.valid
  rw [← Char.ofNat_toNat c]
  by_cases hone : c.toNat < 0x80
  · have hbyte : (UInt8.ofNat c.toNat).toNat = c.toNat := by
      rw [UInt8.toNat_ofNat']
      omega
    rw [encodeChar_one hone, List.singleton_append, decodeFrom_cons, hbyte, feed, start, if_pos hone,
      List.singleton_append]
  by_cases htwo : c.toNat < 0x800
  · exact decodeFrom_two (by omega) htwo rest
  by_cases hthree : c.toNat < 0x10000
  · exact decodeFrom_three (by omega) hthree hchar rest
  · have hlast : c.toNat < 0x110000 := by
      rw [Nat.isValidChar] at hchar
      omega
    exact decodeFrom_four (by omega) hlast rest

theorem decodeFrom_encode (t : Text) (rest : Bytes) :
    decodeFrom none (encode t ++ rest) = t.map some ++ decodeFrom none rest := by
  induction t with
  | nil => rfl
  | cons c t ih =>
    rw [encode_cons, List.append_assoc, decodeFrom_encodeChar, ih, List.map_cons, List.cons_append]

/-- Decoding gives back what has been encoded. -/
theorem decode?_encode (t : Text) : decode? (encode t) = some t := by
  have hfound : found (encode t) = t.map some := by
    have h := decodeFrom_encode t []
    rwa [List.append_nil, show decodeFrom none [] = [] from rfl, List.append_nil] at h
  rw [decode?_eq_some_iff, hfound, Found.text, List.filterMap_map]
  exact ⟨by simp, List.filterMap_some⟩

/-- A stream that is not decoded is not the encoding of any text. -/
theorem decode?_eq_none_iff : decode? bytes = none ↔ ∀ t, bytes ≠ encode t := by
  constructor
  · rintro h t rfl
    rw [decode?_encode] at h
    contradiction
  · intro h
    cases hdecode : decode? bytes with
    | none => rfl
    | some t => exact absurd (encode_of_decode? hdecode).symm (h t)

/-- Where the next byte of a character that is under way can be. -/
def Under (pending : Option Partial) : Prop := ∀ p ∈ pending, 0x80 ≤ p.low

theorem low_of_ofLead? {b : Nat} {p : Partial} (h : Partial.ofLead? b = some p) : 0x80 ≤ p.low := by
  rw [Partial.ofLead?] at h
  split_ifs at h <;> obtain rfl := Option.some.inj h <;> simp

theorem under_start (b : Nat) : Under (start b).2 := by
  intro p hp
  rw [start] at hp
  split at hp
  · contradiction
  · split at hp
    · contradiction
    · next hlead => exact Option.some.inj hp ▸ low_of_ofLead? hlead

theorem under_feed (pending : Option Partial) (b : Nat) : Under (feed pending b).2 := by
  cases pending with
  | none => exact under_start b
  | some p =>
    rw [feed]
    split
    · intro p' hp'
      split at hp'
      · contradiction
      · obtain rfl := Option.some.inj hp'
        exact Nat.le_refl _
    · exact under_start b

/-- An ASCII character is found whatever stands around it: it ends a character that is under way. -/
theorem decodeFrom_append_ascii {pending : Option Partial} (h : Under pending) {b : UInt8}
    (hb : b.toNat < 0x80) (before after : Bytes) :
    decodeFrom pending (before ++ b :: after) =
      decodeFrom pending before ++ some (Char.ofNat b.toNat) :: decodeFrom none after := by
  induction before generalizing pending with
  | nil =>
    rw [List.nil_append, decodeFrom_cons]
    cases pending with
    | none =>
      rw [feed, start, if_pos hb]
      rfl
    | some p =>
      -- The byte cannot go on with the character, which is a fault, and then it starts afresh.
      have hlow : 0x80 ≤ p.low := h p rfl
      rw [feed, if_neg (by omega), start, if_pos hb]
      rfl
  | cons b' before ih =>
    rw [List.cons_append, decodeFrom_cons, ih (under_feed pending b'.toNat), decodeFrom_cons,
      List.append_assoc]

/-- A text that starts with an ASCII character is found whatever stands around it. -/
theorem found_around {c : Char} (hc : c.toNat < 0x80) (t : Text) (before after : Bytes) :
    found (before ++ encode (c :: t) ++ after) =
      found before ++ (c :: t).map some ++ found after := by
  have hbyte : (UInt8.ofNat c.toNat).toNat = c.toNat := by
    rw [UInt8.toNat_ofNat']
    omega
  have hchar : encodeChar c = [UInt8.ofNat c.toNat] := by
    conv_lhs => rw [← Char.ofNat_toNat c]
    exact encodeChar_one hc
  have hnone : Under none := fun p hp => by contradiction
  rw [encode_cons, hchar, List.singleton_append, List.append_assoc, List.cons_append, found,
    decodeFrom_append_ascii hnone (by rw [hbyte]; exact hc), decodeFrom_encode, hbyte,
    Char.ofNat_toNat]
  simp [found]

/-- The same for decoding with another character for each fault. -/
theorem decodeLossy_around {c : Char} (hc : c.toNat < 0x80) (t : Text) (before after : Bytes) :
    decodeLossy (before ++ encode (c :: t) ++ after) =
      decodeLossy before ++ (c :: t) ++ decodeLossy after := by
  rw [decodeLossy, found_around hc, List.map_append, List.map_append, List.map_map]
  simp [decodeLossy, Function.comp_def]

/-- What is decoded to a text in front starts with the encoding of the text, unless the text holds a
character that can stand for a fault. -/
theorem decodeLossy_eq_append_iff (ht : '\uFFFD' ∉ t) :
    (∃ more, decodeLossy bytes = t ++ more) ↔ ∃ rest, bytes = encode t ++ rest := by
  constructor
  · rintro ⟨more, hmore⟩
    obtain ⟨first, later, hfound, hfirst, -⟩ := List.map_eq_append_iff.mp hmore
    have hall : first = t.map some := by
      rw [← hfirst, List.map_map]
      refine (List.map_id first).symm.trans (List.map_congr_left fun x hx => ?_)
      cases x with
      | some c => rfl
      | none => exact absurd (hfirst ▸ List.mem_map_of_mem hx) ht
    exact exists_eq_encode_append (hall ▸ hfound)
  · rintro ⟨rest, rfl⟩
    refine ⟨decodeLossy rest, ?_⟩
    rw [decodeLossy, found, decodeFrom_encode, List.map_append, List.map_map]
    simp [decodeLossy, found, Function.comp_def]

end Reading

end Infill.Utf8
