import PgDoorman.Wire.Bytes

/-!
# Lossy UTF-8 decoding

`String::from_utf8_lossy` reads bytes as UTF-8 and puts one U+FFFD REPLACEMENT CHARACTER in
place of each maximal prefix of an ill-formed sequence. `utf8Lossy` checks a sequence byte by
byte as `core::str::lossy::Utf8Chunks` does: the lead byte gives the width (`utf8_char_width`),
the second byte is held to the range its lead byte allows (RFC 3629 §4: E0 A0-BF, ED 80-9F,
F0 90-BF, F4 80-8F), the others to `80-BF`, and the first byte out of range ends the ill-formed
prefix, which the decoding resumes at. A well-formed sequence is the character its bits spell
(`next_code_point`).

## Main definitions

* `utf8Lossy bs`: the characters `String::from_utf8_lossy(bs)` holds
* `fromUtf8 bs`: `String::from_utf8(bs)`

## Main results

* `utf8Lossy_utf8EncodeChar_append`: a character's UTF-8 bytes decode to the character
* `utf8Lossy_utf8Bytes`: the bytes of a string decode to the string
* `exists_utf8Bytes_iff`: the byte lists that are some string's UTF-8, by their lossy reading
* `fromUtf8_utf8Bytes`: the strict decoding of a string's bytes is the string
-/

namespace Wire

/-- A continuation byte, `80-BF`: `(b as i8) < -64`. -/
def IsCont (b : UInt8) : Prop :=
  0x80 ≤ b.toNat ∧ b.toNat ≤ 0xBF

instance (b : UInt8) : Decidable (IsCont b) :=
  inferInstanceAs (Decidable (_ ∧ _))

/-- The second byte a three-byte lead byte allows. -/
def Second3 (b c : UInt8) : Prop :=
  (b.toNat = 0xE0 ∧ 0xA0 ≤ c.toNat ∧ c.toNat ≤ 0xBF) ∨
  (0xE1 ≤ b.toNat ∧ b.toNat ≤ 0xEC ∧ IsCont c) ∨
  (b.toNat = 0xED ∧ 0x80 ≤ c.toNat ∧ c.toNat ≤ 0x9F) ∨
  (0xEE ≤ b.toNat ∧ b.toNat ≤ 0xEF ∧ IsCont c)

instance (b c : UInt8) : Decidable (Second3 b c) :=
  inferInstanceAs (Decidable (_ ∨ _ ∨ _ ∨ _))

/-- The second byte a four-byte lead byte allows. -/
def Second4 (b c : UInt8) : Prop :=
  (b.toNat = 0xF0 ∧ 0x90 ≤ c.toNat ∧ c.toNat ≤ 0xBF) ∨
  (0xF1 ≤ b.toNat ∧ b.toNat ≤ 0xF3 ∧ IsCont c) ∨
  (b.toNat = 0xF4 ∧ 0x80 ≤ c.toNat ∧ c.toNat ≤ 0x8F)

instance (b c : UInt8) : Decidable (Second4 b c) :=
  inferInstanceAs (Decidable (_ ∨ _ ∨ _))

/-- The code point of a two-byte sequence: five bits of the lead byte, six of the other. -/
def decode2 (b c : UInt8) : Nat :=
  b.toNat % 32 * 64 + c.toNat % 64

/-- The code point of a three-byte sequence. -/
def decode3 (b c d : UInt8) : Nat :=
  b.toNat % 16 * 4096 + c.toNat % 64 * 64 + d.toNat % 64

/-- The code point of a four-byte sequence. -/
def decode4 (b c d e : UInt8) : Nat :=
  b.toNat % 8 * 262144 + c.toNat % 64 * 4096 + d.toNat % 64 * 64 + e.toNat % 64

/-- `String::from_utf8_lossy`, as the characters of the string it returns. Each `skip` is the
replacement of an ill-formed prefix that ends before the byte it names the decoding to resume
at. -/
def utf8Lossy : List UInt8 → List Char
  | [] => []
  | b :: bs =>
    let skip₁ := '\uFFFD' :: utf8Lossy bs
    if b.toNat < 0x80 then Char.ofNat b.toNat :: utf8Lossy bs
    else if 0xC2 ≤ b.toNat ∧ b.toNat ≤ 0xDF then
      match bs with
      | c :: cs => if IsCont c then Char.ofNat (decode2 b c) :: utf8Lossy cs else skip₁
      | [] => ['\uFFFD']
    else if 0xE0 ≤ b.toNat ∧ b.toNat ≤ 0xEF then
      match bs with
      | c :: cs =>
        let skip₂ := '\uFFFD' :: utf8Lossy cs
        if Second3 b c then
          match cs with
          | d :: ds => if IsCont d then Char.ofNat (decode3 b c d) :: utf8Lossy ds else skip₂
          | [] => ['\uFFFD']
        else skip₁
      | [] => ['\uFFFD']
    else if 0xF0 ≤ b.toNat ∧ b.toNat ≤ 0xF4 then
      match bs with
      | c :: cs =>
        let skip₂ := '\uFFFD' :: utf8Lossy cs
        if Second4 b c then
          match cs with
          | d :: ds =>
            let skip₃ := '\uFFFD' :: utf8Lossy ds
            if IsCont d then
              match ds with
              | e :: es =>
                if IsCont e then Char.ofNat (decode4 b c d e) :: utf8Lossy es else skip₃
              | [] => ['\uFFFD']
            else skip₂
          | [] => ['\uFFFD']
        else skip₁
      | [] => ['\uFFFD']
    else skip₁

example : utf8Lossy [0x61, 0xC3, 0xA9] = ['a', 'é'] := by decide

example : utf8Lossy [0xFF, 0xE2, 0x82, 0x41] = ['\uFFFD', '\uFFFD', 'A'] := by decide

/-! ## The well-formed branches -/

theorem utf8Lossy_one {b : UInt8} (hb : b.toNat < 0x80) (rest : List UInt8) :
    utf8Lossy (b :: rest) = Char.ofNat b.toNat :: utf8Lossy rest := by
  rw [utf8Lossy.eq_def]
  dsimp only
  rw [if_pos hb]

theorem utf8Lossy_two {b c : UInt8} (hb : 0xC2 ≤ b.toNat ∧ b.toNat ≤ 0xDF) (hc : IsCont c)
    (rest : List UInt8) :
    utf8Lossy (b :: c :: rest) = Char.ofNat (decode2 b c) :: utf8Lossy rest := by
  rw [utf8Lossy.eq_def]
  dsimp only
  rw [if_neg (by omega), if_pos hb, if_pos hc]

theorem utf8Lossy_three {b c d : UInt8} (hb : 0xE0 ≤ b.toNat ∧ b.toNat ≤ 0xEF)
    (hc : Second3 b c) (hd : IsCont d) (rest : List UInt8) :
    utf8Lossy (b :: c :: d :: rest) = Char.ofNat (decode3 b c d) :: utf8Lossy rest := by
  rw [utf8Lossy.eq_def]
  dsimp only
  rw [if_neg (by omega), if_neg (by omega), if_pos hb, if_pos hc, if_pos hd]

theorem utf8Lossy_four {b c d e : UInt8} (hb : 0xF0 ≤ b.toNat ∧ b.toNat ≤ 0xF4)
    (hc : Second4 b c) (hd : IsCont d) (he : IsCont e) (rest : List UInt8) :
    utf8Lossy (b :: c :: d :: e :: rest) = Char.ofNat (decode4 b c d e) :: utf8Lossy rest := by
  rw [utf8Lossy.eq_def]
  dsimp only
  rw [if_neg (by omega), if_neg (by omega), if_neg (by omega), if_pos hb, if_pos hc, if_pos hd,
    if_pos he]

/-! ## A character's bytes decode to it

`String.utf8EncodeChar` writes the bytes of a code point `v` as `UInt8.ofNat` of a few bits of
`v` plus the byte's tag; each lemma below reads back one width of that encoding. -/

/-- A byte value written by `utf8EncodeChar` is below 256, so `UInt8.ofNat` keeps it. -/
theorem toNat_ofNat_of_lt {n : Nat} (h : n < 256) : (UInt8.ofNat n).toNat = n := by
  rw [UInt8.toNat_ofNat', Nat.mod_eq_of_lt h]

/-- A continuation byte the encoder writes: six bits of the code point under the tag `10`. -/
theorem isCont_ofNat (n : Nat) : IsCont (UInt8.ofNat (n % 64 + 0x80)) := by
  simp only [IsCont, toNat_ofNat_of_lt (by omega : n % 64 + 0x80 < 256)]
  omega

theorem utf8Lossy_encode2 {v : Nat} (h₁ : 0x7F < v) (h₂ : v ≤ 0x7FF) (rest : List UInt8) :
    utf8Lossy (UInt8.ofNat (v / 64 % 32 + 0xC0) :: UInt8.ofNat (v % 64 + 0x80) :: rest) =
      Char.ofNat v :: utf8Lossy rest := by
  have hb := toNat_ofNat_of_lt (by omega : v / 64 % 32 + 0xC0 < 256)
  have hc := toNat_ofNat_of_lt (by omega : v % 64 + 0x80 < 256)
  rw [utf8Lossy_two (by omega) (isCont_ofNat v)]
  simp only [decode2, hb, hc]
  congr 2
  omega

/-- Three bytes: the second byte stays out of `A0-BF` after `E0` only below `0x800`, and out of
`80-9F` after `ED` only on the surrogates, which `hs` excludes. -/
theorem utf8Lossy_encode3 {v : Nat} (h₁ : 0x7FF < v) (h₂ : v ≤ 0xFFFF)
    (hs : v < 0xD800 ∨ 0xDFFF < v) (rest : List UInt8) :
    utf8Lossy (UInt8.ofNat (v / 4096 % 16 + 0xE0) :: UInt8.ofNat (v / 64 % 64 + 0x80) ::
        UInt8.ofNat (v % 64 + 0x80) :: rest) =
      Char.ofNat v :: utf8Lossy rest := by
  have hb := toNat_ofNat_of_lt (by omega : v / 4096 % 16 + 0xE0 < 256)
  have hc := toNat_ofNat_of_lt (by omega : v / 64 % 64 + 0x80 < 256)
  have hd := toNat_ofNat_of_lt (by omega : v % 64 + 0x80 < 256)
  have hsecond : Second3 (UInt8.ofNat (v / 4096 % 16 + 0xE0)) (UInt8.ofNat (v / 64 % 64 + 0x80)) := by
    simp only [Second3, IsCont, hb, hc]
    omega
  rw [utf8Lossy_three (by omega) hsecond (isCont_ofNat v)]
  simp only [decode3, hb, hc, hd]
  congr 2
  omega

/-- Four bytes: the second byte stays out of `90-BF` after `F0` only below `0x10000`, and out of
`80-8F` after `F4` only past `0x10FFFF`, which `h₂` excludes. -/
theorem utf8Lossy_encode4 {v : Nat} (h₁ : 0xFFFF < v) (h₂ : v < 0x110000) (rest : List UInt8) :
    utf8Lossy (UInt8.ofNat (v / 262144 % 8 + 0xF0) :: UInt8.ofNat (v / 4096 % 64 + 0x80) ::
        UInt8.ofNat (v / 64 % 64 + 0x80) :: UInt8.ofNat (v % 64 + 0x80) :: rest) =
      Char.ofNat v :: utf8Lossy rest := by
  have hb := toNat_ofNat_of_lt (by omega : v / 262144 % 8 + 0xF0 < 256)
  have hc := toNat_ofNat_of_lt (by omega : v / 4096 % 64 + 0x80 < 256)
  have hd := toNat_ofNat_of_lt (by omega : v / 64 % 64 + 0x80 < 256)
  have he := toNat_ofNat_of_lt (by omega : v % 64 + 0x80 < 256)
  have hsecond :
      Second4 (UInt8.ofNat (v / 262144 % 8 + 0xF0)) (UInt8.ofNat (v / 4096 % 64 + 0x80)) := by
    simp only [Second4, IsCont, hb, hc]
    omega
  rw [utf8Lossy_four (by omega) hsecond (isCont_ofNat (v / 64)) (isCont_ofNat v)]
  simp only [decode4, hb, hc, hd, he]
  congr 2
  omega

/-- **A character's UTF-8 bytes decode to the character**, whatever follows them. -/
theorem utf8Lossy_utf8EncodeChar_append (c : Char) (rest : List UInt8) :
    utf8Lossy (String.utf8EncodeChar c ++ rest) = c :: utf8Lossy rest := by
  have hvalid : c.val.toNat < 0xD800 ∨ (0xDFFF < c.val.toNat ∧ c.val.toNat < 0x110000) := c.valid
  have hc : Char.ofNat c.val.toNat = c := Char.ofNat_toNat c
  simp only [String.utf8EncodeChar]
  generalize c.val.toNat = v at hvalid hc ⊢
  subst hc
  -- the four widths of `utf8EncodeChar`, by the code point
  split_ifs with h₁ h₂ h₃
  · rw [List.singleton_append, utf8Lossy_one (by rw [toNat_ofNat_of_lt (by omega)]; omega),
      toNat_ofNat_of_lt (by omega)]
  · exact utf8Lossy_encode2 (by omega) h₂ rest
  · exact utf8Lossy_encode3 (by omega) h₃ (by omega) rest
  · exact utf8Lossy_encode4 (by omega) (by omega) rest

/-- **The bytes of a string decode to the string.** -/
theorem utf8Lossy_utf8Bytes (s : String) : utf8Lossy (utf8Bytes s) = s.toList := by
  rw [utf8Bytes]
  induction s.toList with
  | nil => rfl
  | cons c l ih => rw [List.flatMap_cons, utf8Lossy_utf8EncodeChar_append, ih]

/-- A byte list is the UTF-8 of some string exactly when encoding its lossy reading gives it
back: the string can only be that reading. -/
theorem exists_utf8Bytes_iff (bs : List UInt8) :
    (∃ s, utf8Bytes s = bs) ↔ (utf8Lossy bs).flatMap String.utf8EncodeChar = bs := by
  constructor
  · rintro ⟨s, rfl⟩
    rw [utf8Lossy_utf8Bytes]
    rfl
  · intro h
    exact ⟨String.ofList (utf8Lossy bs), by rw [utf8Bytes, String.toList_ofList, h]⟩

/-- `String::from_utf8`: the string whose UTF-8 the bytes are, if they are well-formed. Such a
string can only be their lossy reading (`exists_utf8Bytes_iff`). -/
def fromUtf8 (bs : List UInt8) : Option String :=
  if (utf8Lossy bs).flatMap String.utf8EncodeChar = bs then some (String.ofList (utf8Lossy bs))
  else none

theorem fromUtf8_utf8Bytes (s : String) : fromUtf8 (utf8Bytes s) = some s := by
  have hwell : (utf8Lossy (utf8Bytes s)).flatMap String.utf8EncodeChar = utf8Bytes s :=
    (exists_utf8Bytes_iff _).mp ⟨s, rfl⟩
  rw [fromUtf8, if_pos hwell, utf8Lossy_utf8Bytes, String.ofList_toList]

end Wire
