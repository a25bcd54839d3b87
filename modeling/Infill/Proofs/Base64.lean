import Infill.Proofs.Splicing
import Infill.Proofs.Utf8

/-!
# Decoding Base64

A decoder for the standard alphabet with padding.  It takes the encodings and no other texts
(`Base64.decode?_eq_some_iff`): groups of four characters, of which the last one can be filled up with
`=`, and no bit set that is not part of a byte.

So nothing is lost in an encoding, nor in a line that is filled with one (`encoding_loses_nothing`).
-/

namespace Infill

namespace Base64

/-- The value of a character of the alphabet: upper-case letters, lower-case letters, digits, and the
two signs. -/
def value? (c : Char) : Option Nat :=
  if 'A' ≤ c ∧ c ≤ 'Z' then some (c.toNat - 65)
  else if 'a' ≤ c ∧ c ≤ 'z' then some (26 + (c.toNat - 97))
  else if '0' ≤ c ∧ c ≤ '9' then some (52 + (c.toNat - 48))
  else if c = '+' then some 62
  else if c = '/' then some 63
  else none

/-- Decodes a text, group by group. -/
def decode? : Text → Option Bytes
  | [] => some []
  | a :: b :: c :: d :: rest => do
    let i ← value? a
    let j ← value? b
    if c = '=' ∧ d = '=' then
      if rest = [] ∧ j % 16 = 0 then return [UInt8.ofNat (i * 4 + j / 16)] else none
    else
      let k ← value? c
      let n := i * 4096 + j * 64 + k
      if d = '=' then
        if rest = [] ∧ k % 4 = 0 then
          return [UInt8.ofNat (n / 1024), UInt8.ofNat (n / 4 % 256)]
        else none
      else
        let l ← value? d
        let more ← decode? rest
        return UInt8.ofNat (n / 1024) :: UInt8.ofNat (n / 4 % 256) ::
          UInt8.ofNat (n % 4 * 64 + l) :: more
  | _ => none

section Digits

variable {c : Char} {n : Nat}

theorem value?_digit (h : n < 64) : value? (digit n) = some n := by
  have hall : ∀ n < 64, value? (digit n) = some n := by decide +kernel
  exact hall n h

theorem digit_ne_fill (h : n < 64) : digit n ≠ '=' := by
  intro hfill
  have hvalue := value?_digit h
  rw [hfill, show value? '=' = none from by decide] at hvalue
  cases hvalue

/-- A character of a block of the alphabet that starts at the value `first`. -/
theorem digit_of_block {first low size : Nat}
    (hblock : ∀ n < size, digit (first + n) = Char.ofNat (low + n)) (hlow : low ≤ c.toNat)
    (hhigh : c.toNat < low + size) : digit (first + (c.toNat - low)) = c := by
  rw [hblock _ (by omega), Nat.add_sub_cancel' hlow, Char.ofNat_toNat]

theorem digit_of_value? (h : value? c = some n) : n < 64 ∧ digit n = c := by
  have hrange : ∀ {low high : Char}, low ≤ c ∧ c ≤ high →
      low.toNat ≤ c.toNat ∧ c.toNat ≤ high.toNat := fun h => h
  rw [value?] at h
  split_ifs at h with hupper hlower hdigit hplus hslash
  · obtain ⟨hlow, hhigh⟩ : 65 ≤ c.toNat ∧ c.toNat ≤ 90 := hrange hupper
    obtain rfl := Option.some.inj h
    have hblock := @digit_of_block c 0 65 26 (by decide +kernel) hlow (by omega)
    rw [Nat.zero_add] at hblock
    exact ⟨by omega, hblock⟩
  · obtain ⟨hlow, hhigh⟩ : 97 ≤ c.toNat ∧ c.toNat ≤ 122 := hrange hlower
    obtain rfl := Option.some.inj h
    exact ⟨by omega, @digit_of_block c 26 97 26 (by decide +kernel) hlow (by omega)⟩
  · obtain ⟨hlow, hhigh⟩ : 48 ≤ c.toNat ∧ c.toNat ≤ 57 := hrange hdigit
    obtain rfl := Option.some.inj h
    exact ⟨by omega, @digit_of_block c 52 48 10 (by decide +kernel) hlow (by omega)⟩
  · obtain rfl := Option.some.inj h
    exact ⟨by decide, hplus ▸ rfl⟩
  · obtain rfl := Option.some.inj h
    exact ⟨by decide, hslash ▸ rfl⟩

/-- The alphabet consists of letters, digits and two signs, all of them ASCII. -/
theorem sign_of_value? (h : value? c = some n) : c.toNat < 0x80 ∧
    (Text.isLetter c ∨ Text.isDigit c ∨ c = '+' ∨ c = '/') := by
  have hbound : ∀ {high : Char}, c ≤ high → high.toNat < 0x80 → c.toNat < 0x80 :=
    fun h => Nat.lt_of_le_of_lt h
  rw [value?] at h
  split_ifs at h with hupper hlower hdigit hplus hslash
  · exact ⟨hbound hupper.2 (by decide), by simp [Text.isLetter, hupper]⟩
  · exact ⟨hbound hlower.2 (by decide), by simp [Text.isLetter, hlower]⟩
  · exact ⟨hbound hdigit.2 (by decide), by simp [Text.isDigit, hdigit]⟩
  · exact ⟨hplus ▸ by decide, by simp [hplus]⟩
  · exact ⟨hslash ▸ by decide, by simp [hslash]⟩

end Digits

section Groups

variable {i j k l : Nat}

theorem decode?_one (hi : i < 64) (hj : j < 64) : decode? [digit i, digit j, '=', '='] =
    if j % 16 = 0 then some [UInt8.ofNat (i * 4 + j / 16)] else none := by
  simp [decode?, value?_digit hi, value?_digit hj]

theorem decode?_two (hi : i < 64) (hj : j < 64) (hk : k < 64) :
    decode? [digit i, digit j, digit k, '='] =
      if k % 4 = 0 then
        some [UInt8.ofNat ((i * 4096 + j * 64 + k) / 1024),
          UInt8.ofNat ((i * 4096 + j * 64 + k) / 4 % 256)]
      else none := by
  simp [decode?, value?_digit hi, value?_digit hj, value?_digit hk, digit_ne_fill hk]

theorem decode?_three (hi : i < 64) (hj : j < 64) (hk : k < 64) (hl : l < 64) (rest : Text) :
    decode? (digit i :: digit j :: digit k :: digit l :: rest) =
      (decode? rest).map fun more =>
        UInt8.ofNat ((i * 4096 + j * 64 + k) / 1024) ::
          UInt8.ofNat ((i * 4096 + j * 64 + k) / 4 % 256) ::
          UInt8.ofNat ((i * 4096 + j * 64 + k) % 4 * 64 + l) :: more := by
  simp only [decode?, value?_digit hi, value?_digit hj, value?_digit hk, value?_digit hl,
    digit_ne_fill hk, digit_ne_fill hl, false_and, if_false, Option.bind_eq_bind, Option.bind_some,
    Option.map_eq_bind]
  rfl

variable {a b c : UInt8} (hj : j < 64)

include hj

theorem encodeBytes_one (ha : a.toNat = i * 4 + j / 16) (hfill : j % 16 = 0) :
    encodeBytes [a] = [digit i, digit j, '=', '='] := by
  have hfirst : a.toNat * 65536 / 262144 = i := by omega
  have hsecond : a.toNat * 65536 / 4096 % 64 = j := by omega
  simp only [encodeBytes, hfirst, hsecond]

theorem encodeBytes_two (hk : k < 64) (ha : a.toNat = (i * 4096 + j * 64 + k) / 1024)
    (hb : b.toNat = (i * 4096 + j * 64 + k) / 4 % 256) (hfill : k % 4 = 0) :
    encodeBytes [a, b] = [digit i, digit j, digit k, '='] := by
  have hbits : a.toNat * 65536 + b.toNat * 256 = (i * 4096 + j * 64 + k) * 64 := by omega
  have hfirst : (i * 4096 + j * 64 + k) * 64 / 262144 = i := by omega
  have hsecond : (i * 4096 + j * 64 + k) * 64 / 4096 % 64 = j := by omega
  have hthird : (i * 4096 + j * 64 + k) * 64 / 64 % 64 = k := by omega
  simp only [encodeBytes, hbits, hfirst, hsecond, hthird]

theorem encodeBytes_three (hk : k < 64) (hl : l < 64)
    (ha : a.toNat = (i * 4096 + j * 64 + k) / 1024)
    (hb : b.toNat = (i * 4096 + j * 64 + k) / 4 % 256)
    (hc : c.toNat = (i * 4096 + j * 64 + k) % 4 * 64 + l) (more : Bytes) :
    encodeBytes (a :: b :: c :: more) =
      digit i :: digit j :: digit k :: digit l :: encodeBytes more := by
  have hbits : a.toNat * 65536 + b.toNat * 256 + c.toNat =
      (i * 4096 + j * 64 + k) * 64 + l := by omega
  have hfirst : ((i * 4096 + j * 64 + k) * 64 + l) / 262144 = i := by omega
  have hsecond : ((i * 4096 + j * 64 + k) * 64 + l) / 4096 % 64 = j := by omega
  have hthird : ((i * 4096 + j * 64 + k) * 64 + l) / 64 % 64 = k := by omega
  have hfourth : ((i * 4096 + j * 64 + k) * 64 + l) % 64 = l := by omega
  simp only [encodeBytes, hbits, hfirst, hsecond, hthird, hfourth]

end Groups

theorem decode?_encodeBytes (bytes : Bytes) : decode? (encodeBytes bytes) = some bytes := by
  induction bytes using encodeBytes.induct with
  | case1 a b c rest ih =>
    have ha := a.toNat_lt
    have hb := b.toNat_lt
    have hc := c.toNat_lt
    rw [encodeBytes, decode?_three (by omega) (by omega) (by omega) (by omega), ih, Option.map_some,
      Utf8.ofNat_eq_of_toNat (b := a) (by omega), Utf8.ofNat_eq_of_toNat (b := b) (by omega),
      Utf8.ofNat_eq_of_toNat (b := c) (by omega)]
  | case2 a b =>
    have ha := a.toNat_lt
    have hb := b.toNat_lt
    rw [encodeBytes, decode?_two (by omega) (by omega) (by omega), if_pos (by omega),
      Utf8.ofNat_eq_of_toNat (b := a) (by omega), Utf8.ofNat_eq_of_toNat (b := b) (by omega)]
  | case3 a =>
    have ha := a.toNat_lt
    rw [encodeBytes, decode?_one (by omega) (by omega), if_pos (by omega),
      Utf8.ofNat_eq_of_toNat (b := a) (by omega)]
  | case4 => rfl

/-- What is decoded has been encoded so. -/
theorem eq_encodeBytes_of_decode? {t : Text} {bytes : Bytes} (h : decode? t = some bytes) :
    t = encodeBytes bytes := by
  have hbyte : ∀ {n : Nat}, n < 256 → (UInt8.ofNat n).toNat = n := UInt8.toNat_ofNat_of_lt
  induction t using decode?.induct generalizing bytes with
  | case1 =>
    obtain rfl := Option.some.inj h
    rfl
  | case2 a b c d rest ih =>
    rw [decode?] at h
    obtain ⟨i, ha, hpairs⟩ := Option.bind_eq_some_iff.mp h
    obtain ⟨j, hb, hgroup⟩ := Option.bind_eq_some_iff.mp hpairs
    obtain ⟨hi, ha⟩ := digit_of_value? ha
    obtain ⟨hj, hb⟩ := digit_of_value? hb
    rw [← ha, ← hb]
    split at hgroup
    · next hfill =>
      split at hgroup
      · next hlast =>
        obtain rfl := Option.some.inj hgroup
        have hfirst : (UInt8.ofNat (i * 4 + j / 16)).toNat = i * 4 + j / 16 := hbyte (by omega)
        rw [hfill.1, hfill.2, hlast.1, encodeBytes_one hj hfirst hlast.2]
      · cases hgroup
    · obtain ⟨k, hc, hgroup⟩ := Option.bind_eq_some_iff.mp hgroup
      obtain ⟨hk, hc⟩ := digit_of_value? hc
      rw [← hc]
      split at hgroup
      · next hfill =>
        split at hgroup
        · next hlast =>
          obtain rfl := Option.some.inj hgroup
          rw [hfill, hlast.1]
          exact (encodeBytes_two hj hk (hbyte (by omega)) (hbyte (by omega)) hlast.2).symm
        · cases hgroup
      · obtain ⟨l, hd, hwhole⟩ := Option.bind_eq_some_iff.mp hgroup
        obtain ⟨more, hmore, hbytes⟩ := Option.bind_eq_some_iff.mp hwhole
        obtain ⟨hl, hd⟩ := digit_of_value? hd
        obtain rfl := Option.some.inj hbytes
        rw [← hd, ih hmore]
        exact (encodeBytes_three hj hk hl (hbyte (by omega)) (hbyte (by omega)) (hbyte (by omega))
          more).symm
  | case3 t hempty hgroup =>
    rw [decode?] at h
    · cases h
    · exact hempty
    · exact hgroup

/-- The decoder takes encodings only, and gives what has been encoded. -/
theorem decode?_eq_some_iff {t : Text} {bytes : Bytes} :
    decode? t = some bytes ↔ t = encodeBytes bytes :=
  ⟨eq_encodeBytes_of_decode?, fun h => h ▸ decode?_encodeBytes bytes⟩

/-- An encoding consists of digits, and is filled up to whole groups of four characters. -/
theorem exists_digits_fill (bytes : Bytes) :
    ∃ digits fill, encodeBytes bytes = digits ++ List.replicate fill '=' ∧ fill ≤ 2 ∧
      digits.length + fill = 4 * ((bytes.length + 2) / 3) ∧ ∀ c ∈ digits, ∃ n < 64, c = digit n := by
  induction bytes using encodeBytes.induct with
  | case1 a b c rest ih =>
    have ha := a.toNat_lt
    have hb := b.toNat_lt
    have hc := c.toNat_lt
    obtain ⟨digits, fill, hencode, hfill, hlength, hdigits⟩ := ih
    refine ⟨_ :: _ :: _ :: _ :: digits, fill, by rw [encodeBytes, hencode]; rfl, hfill, ?_, ?_⟩
    · simp only [List.length_cons]
      omega
    · simp only [List.forall_mem_cons]
      exact ⟨⟨_, by omega, rfl⟩, ⟨_, by omega, rfl⟩, ⟨_, by omega, rfl⟩, ⟨_, by omega, rfl⟩, hdigits⟩
  | case2 a b =>
    have ha := a.toNat_lt
    have hb := b.toNat_lt
    refine ⟨[_, _, _], 1, rfl, by decide, by simp, ?_⟩
    simp only [List.forall_mem_cons]
    exact ⟨⟨_, by omega, rfl⟩, ⟨_, by omega, rfl⟩, ⟨_, by omega, rfl⟩, by simp⟩
  | case3 a =>
    have ha := a.toNat_lt
    refine ⟨[_, _], 2, rfl, by decide, by simp, ?_⟩
    simp only [List.forall_mem_cons]
    exact ⟨⟨_, by omega, rfl⟩, ⟨_, by omega, rfl⟩, by simp⟩
  | case4 => exact ⟨[], 0, rfl, by decide, rfl, by simp⟩

theorem encode_injective : Function.Injective encode := by
  intro v v' h
  have hbytes : Utf8.encode v = Utf8.encode v' := by
    have hdecode := decode?_encodeBytes (Utf8.encode v)
    rw [← encode, h, encode, decode?_encodeBytes] at hdecode
    exact (Option.some.inj hdecode).symm
  have hdecode := Utf8.decode?_encode v
  rw [hbytes, Utf8.decode?_encode] at hdecode
  exact (Option.some.inj hdecode).symm

/-- The encoding of a text in characters and in bytes. -/
theorem length_encode (v : Text) : (encode v).length = 4 * ((Utf8.size v + 2) / 3) := by
  obtain ⟨digits, fill, hencode, -, hlength, -⟩ := exists_digits_fill (Utf8.encode v)
  rw [encode, hencode, List.length_append, List.length_replicate, hlength, Utf8.size_eq_length_encode]

theorem isAscii_of_mem_encode {c : Char} {v : Text} (h : c ∈ encode v) : c.toNat < 0x80 := by
  obtain ⟨digits, fill, hencode, -, -, hdigits⟩ := exists_digits_fill (Utf8.encode v)
  rw [encode, hencode, List.mem_append] at h
  rcases h with h | h
  · obtain ⟨n, hn, rfl⟩ := hdigits c h
    exact (sign_of_value? (value?_digit hn)).1
  · rw [(List.mem_replicate.mp h).2]
    decide

end Base64

/-- An encoding can be decoded, and holds nothing but digits of the alphabet and what fills them up.
So texts with the same encoding are the same, and the text that is put into a line for a value that is
encoded last decodes to that value. -/
theorem encoding_loses_nothing [Pattern.Limit] :
    (∀ v, Base64.decode? (Base64.encode v) = some (Utf8.encode v)) ∧
    (∀ t bytes, Base64.decode? t = some bytes ↔ t = Base64.encodeBytes bytes) ∧
    (∀ v, (Base64.encode v).length = 4 * ((Utf8.size v + 2) / 3) ∧
      Utf8.size (Base64.encode v) = (Base64.encode v).length) ∧
    (∀ v, ∃ digits fill, Base64.encode v = digits ++ List.replicate fill '=' ∧ fill ≤ 2 ∧
      ∀ c ∈ digits, Text.isLetter c ∨ Text.isDigit c ∨ c = '+' ∨ c = '/') ∧
    Function.Injective Base64.encode ∧
    (∀ site cache d line before p tail first raw, dialect? line = some d →
      Template.ofLine d line = { holes := [(before, p)], tail } →
      (Chain.parse p.modifiers).dataModifiers = first ++ [.base64] →
      (Chain.parse p.modifiers).lineModifiers = [] → Value site cache p.target raw →
      ∃ text, (processLine line site cache).result = .ok (before ++ text ++ tail) ∧
        Base64.decode? text = some (Utf8.encode (first.foldl Modifier.applyData raw))) := by
  have hdecode : ∀ v, Base64.decode? (Base64.encode v) = some (Utf8.encode v) :=
    fun v => Base64.decode?_encodeBytes (Utf8.encode v)
  refine ⟨hdecode, fun _ _ => Base64.decode?_eq_some_iff, ?length, ?digits, Base64.encode_injective,
    ?line⟩
  case length =>
    exact fun v => ⟨Base64.length_encode v, Utf8.size_of_ascii fun _ => Base64.isAscii_of_mem_encode⟩
  case digits =>
    intro v
    obtain ⟨digits, fill, hencode, hfill, -, hdigits⟩ := Base64.exists_digits_fill (Utf8.encode v)
    refine ⟨digits, fill, hencode, hfill, fun c hc => ?_⟩
    obtain ⟨n, hn, rfl⟩ := hdigits c hc
    exact (Base64.sign_of_value? (Base64.value?_digit hn)).2
  case line =>
    intro site cache d line before p tail first raw hdialect hline hdata hnone hvalue
    have hput : p.put raw = Base64.encode (first.foldl Modifier.applyData raw) := by
      rw [Placeholder.put, Chain.applyData_eq_foldl, hdata, List.foldl_append]
      rfl
    exact ⟨p.put raw, processLine_of_one_placeholder hdialect hline hnone hvalue,
      by rw [hput, hdecode]⟩

open scoped Pattern.Estimate in
/-- A field of a setting is encoded after it has been picked out. -/
theorem encoding_loses_nothing_picked_field :
    ∃ text, (processLine "k: $\x7bref:K | dict(b) | base64\x7d".toList
        { world := { disk := { wording := fun _ _ _ => [] }, environment := [],
                     answer := fun _ => .error [] },
          settingsPath := { text := [] } }
        { settings := some { entries := [(['K'], "a=1,b=é x".toList)] } }).result =
          .ok ("k: ".toList ++ text ++ []) ∧
      Base64.decode? text = some (Utf8.encode "é x".toList) := by
  have hline : Template.ofLine .reference "k: $\x7bref:K | dict(b) | base64\x7d".toList =
      { holes :=
          [("k: ".toList, { target := .setting ['K'], modifiers := "| dict(b) | base64".toList,
                            text := "$\x7bref:K | dict(b) | base64\x7d".toList })],
        tail := [] } := rfl
  obtain ⟨-, -, -, -, -, hencoded⟩ := encoding_loses_nothing
  have hvalue : ∀ site, Value site { settings := some { entries := [(['K'], "a=1,b=é x".toList)] } }
      (.setting ['K']) "a=1,b=é x".toList := fun _ =>
    .plain (s := { entries := [(['K'], "a=1,b=é x".toList)] }) rfl (by decide)
  obtain ⟨text, hresult, hdecode⟩ := hencoded _ _ .reference _ _ _ _ [.dict ['b']] _
    (by decide +kernel) hline (by decide +kernel) (by decide +kernel) (hvalue _)
  exact ⟨text, hresult, hdecode.trans (by decide +kernel)⟩

end Infill
