import PgDoorman.Wire.Bytes

/-!
# Byte buffers: slices, raw writes and `BytesMut`

What code that rewrites a buffer does with it: it takes slices `&xs[lo..hi]`, which panic
outside the buffer; it writes bytes at an offset of raw memory (`copy_nonoverlapping`) and
moves a range inside it (`std::ptr::copy`, a `memmove`); and it keeps the bytes in a
`BytesMut`, whose memory is longer than its contents by its spare capacity.

## Main definitions

* `slice xs lo hi`: `&xs[lo..hi]`, `none` where it panics
* `write m off xs`, `move m src dst n`: raw writes into a memory `m`
* `BytesMut`: a memory and the length of its contents, with `extendFromSlice`

## Main results

* `slice_append_middle`: the slice of `a ++ b ++ c` from `a`'s end to `b`'s end is `b`
* `write_write_of_adjacent`: two writes side by side are one write of both
* `take_write`: what a write leaves before its end
* `contents_extendFromSlice`: `extend_from_slice` appends, whether or not it reallocates
-/

namespace Wire

variable {α : Type}

/-! ## Slices -/

/-- `&xs[lo..hi]`: the elements from `lo` up to `hi`; a panic (`none`) unless
`lo ≤ hi ≤ xs.length`. -/
def slice (xs : List α) (lo hi : Nat) : Option (List α) :=
  if lo ≤ hi ∧ hi ≤ xs.length then some ((xs.drop lo).take (hi - lo)) else none

theorem slice_eq_some {xs : List α} {lo hi : Nat} (h : lo ≤ hi ∧ hi ≤ xs.length) :
    slice xs lo hi = some ((xs.drop lo).take (hi - lo)) :=
  if_pos h

theorem slice_append_middle (a b c : List α) :
    slice (a ++ b ++ c) a.length (a.length + b.length) = some b := by
  rw [slice_eq_some ⟨by omega, by simp⟩, Nat.add_sub_cancel_left, List.append_assoc,
    List.drop_left, List.take_left]

/-- `&xs[lo..]`. -/
theorem slice_append_length (a b : List α) : slice (a ++ b) a.length (a ++ b).length = some b := by
  have h := slice_append_middle a b []
  rwa [List.append_nil, ← List.length_append] at h

/-! ## Raw memory -/

/-- `xs` written over the memory `m` from offset `off` on (`copy_nonoverlapping` into a
buffer): what was there before is overwritten, the rest is left. -/
def write (m : List α) (off : Nat) (xs : List α) : List α :=
  m.take off ++ xs ++ m.drop (off + xs.length)

/-- `std::ptr::copy`: `n` elements from `src` to `dst`, where the two ranges may overlap; it
behaves as if the source were first copied aside, so the bytes written are those read before
any write. -/
def move (m : List α) (src dst n : Nat) : List α :=
  write m dst ((m.drop src).take n)

theorem length_write {m : List α} {off : Nat} {xs : List α} (h : off + xs.length ≤ m.length) :
    (write m off xs).length = m.length := by
  simp only [write, List.length_append, List.length_take, List.length_drop]
  omega

/-- A write inside the memory or up to its end reaches at least as far as it writes. -/
theorem le_length_write {m : List α} {off : Nat} (xs : List α) (h : off ≤ m.length) :
    off + xs.length ≤ (write m off xs).length := by
  simp only [write, List.length_append, List.length_take, List.length_drop]
  omega

/-- Before its end a write leaves the memory before it, then what it wrote. -/
theorem take_write {m : List α} {off : Nat} (xs : List α) (h : off ≤ m.length) :
    (write m off xs).take (off + xs.length) = m.take off ++ xs := by
  have hlen : (m.take off ++ xs).length = off + xs.length := by
    simp only [List.length_append, List.length_take_of_le h]
  exact List.take_left' hlen

/-- A write at the end of another, made after it, is one write of both. -/
theorem write_write_of_adjacent_after {m : List α} {off : Nat} (xs ys : List α)
    (h : off ≤ m.length) :
    write (write m off xs) (off + xs.length) ys = write m off (xs ++ ys) := by
  have hfront : (m.take off ++ xs).length = off + xs.length := by
    simp only [List.length_append, List.length_take_of_le h]
  simp only [write]
  -- the second write keeps the first one's prefix and what it wrote, and cuts into its suffix
  rw [List.take_left' hfront, ← hfront, List.drop_length_add_append, List.drop_drop, hfront]
  simp only [List.append_assoc, List.length_append, Nat.add_assoc]

/-- A write at the end of another, made before it, is one write of both. -/
theorem write_write_of_adjacent {m : List α} {off : Nat} (xs ys : List α)
    (h : off + xs.length ≤ m.length) :
    write (write m (off + xs.length) ys) off xs = write m off (xs ++ ys) := by
  have htake : (m.take (off + xs.length)).length = off + xs.length := List.length_take_of_le h
  -- the outer write keeps the first `off` elements of the inner one, and what the inner one
  -- wrote after its own offset
  simp only [write]
  rw [List.append_assoc (m.take (off + xs.length)), List.take_append_of_le_length (by omega),
    List.take_take, Nat.min_eq_left (by omega), List.drop_left' htake, List.length_append,
    Nat.add_assoc]
  simp only [List.append_assoc]

/-- Writing nothing leaves the memory. -/
@[simp] theorem write_nil (m : List α) (off : Nat) : write m off [] = m := by
  simp [write, List.take_append_drop]

/-! ## `BytesMut` -/

/-- A `BytesMut`: its memory, as long as its capacity, whose first `len` bytes are its
contents; the bytes of the spare capacity are whatever was there. -/
structure BytesMut where
  mem : List UInt8
  len : Nat
  len_le : len ≤ mem.length

namespace BytesMut

/-- The bytes the buffer holds (`as_ref`). -/
def contents (b : BytesMut) : List UInt8 :=
  b.mem.take b.len

/-- `capacity`. -/
def capacity (b : BytesMut) : Nat :=
  b.mem.length

/-- `BytesMut::with_capacity`: empty, with `n` bytes of memory. -/
def withCapacity (n : Nat) : BytesMut :=
  ⟨List.replicate n 0, 0, Nat.zero_le _⟩

/-- `extend_from_slice`: written into the spare capacity where it fits; otherwise the
contents move to a memory just large enough. -/
def extendFromSlice (b : BytesMut) (xs : List UInt8) : BytesMut :=
  if h : b.len + xs.length ≤ b.mem.length then
    ⟨write b.mem b.len xs, b.len + xs.length, by rw [length_write h]; exact h⟩
  else ⟨b.contents ++ xs, b.len + xs.length, by
    simp only [contents, List.length_append, List.length_take, Nat.min_eq_left b.len_le]
    exact Nat.le_refl _⟩

/-- `reserve(n)`: room for `n` more bytes, the contents kept. -/
def reserve (b : BytesMut) (n : Nat) : BytesMut :=
  if n ≤ b.mem.length - b.len then b
  else ⟨b.contents ++ List.replicate n 0, b.len, by
    simp only [contents, List.length_append, List.length_take, Nat.min_eq_left b.len_le]
    omega⟩

@[simp] theorem length_contents (b : BytesMut) : b.contents.length = b.len := by
  simp [contents, b.len_le]

@[simp] theorem contents_withCapacity (n : Nat) : (withCapacity n).contents = [] := by
  simp [withCapacity, contents]

@[simp] theorem contents_reserve (b : BytesMut) (n : Nat) : (b.reserve n).contents = b.contents := by
  unfold reserve
  split
  · rfl
  · exact List.take_left' (by simp)

/-- `extend_from_slice` appends to the contents, reallocating or not. -/
@[simp] theorem contents_extendFromSlice (b : BytesMut) (xs : List UInt8) :
    (b.extendFromSlice xs).contents = b.contents ++ xs := by
  unfold extendFromSlice
  split
  · exact take_write xs b.len_le
  · exact List.take_of_length_le (by simp)

end BytesMut

end Wire
