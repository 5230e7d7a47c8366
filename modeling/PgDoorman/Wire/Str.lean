import PgDoorman.Wire.Utf8

/-!
# Rust string slices

A Rust `str` is UTF-8 text whose positions are byte offsets: `len` counts bytes, `get(i..)`
succeeds only at a character boundary, and slicing at any other offset panics. The model reads a
`str` as its characters, with each character's `utf8Size` as its width.

## Main definitions

* `byteLen`, `strBytes`: `str::len` and `str::as_bytes`
* `getFrom`, `getTo`, `sliceFrom`, `sliceTo`: `str::get(i..)`, `str::get(..i)`, `&s[i..]` and
  `&s[..i]`
* `splitOnce`, `rsplitOnce`: `str::split_once` and `str::rsplit_once` at a character

## Main results

* `getFrom_append_byteLen_add`: past a prefix, offsets count from the prefix's end
* `utf8Lossy_strBytes_append`, `utf8Lossy_high_cons`: the lossy decoding of a text's bytes, and of a
  lone high byte before an ASCII one
-/

namespace Wire

/-- An ASCII text: every character is one byte. -/
def IsAsciiText (s : List Char) : Prop :=
  ∀ c ∈ s, c.toNat < 128

instance (s : List Char) : Decidable (IsAsciiText s) :=
  inferInstanceAs (Decidable (∀ c ∈ s, _))

/-- `str::len`: the length of the UTF-8 encoding. -/
def byteLen (s : List Char) : Nat :=
  (s.map Char.utf8Size).sum

/-- `str::as_bytes`. -/
def strBytes (s : List Char) : List UInt8 :=
  s.flatMap String.utf8EncodeChar

/-- `str::get(i..)`: the text from byte `i`, when `i` is a character boundary within it. -/
def getFrom : List Char → Nat → Option (List Char)
  | s, 0 => some s
  | [], _ + 1 => none
  | c :: cs, i + 1 => if c.utf8Size ≤ i + 1 then getFrom cs (i + 1 - c.utf8Size) else none

/-- `str::get(..i)`: the text up to byte `i`, when `i` is a character boundary within it. -/
def getTo : List Char → Nat → Option (List Char)
  | _, 0 => some []
  | [], _ + 1 => none
  | c :: cs, i + 1 =>
    if c.utf8Size ≤ i + 1 then (getTo cs (i + 1 - c.utf8Size)).map (c :: ·) else none

/-- `&s[i..]`: the text from byte `i`, or the panic of a slice at no character boundary. -/
def sliceFrom {ε : Type} (s : List Char) (i : Nat) : Outcome ε (List Char) :=
  match getFrom s i with
  | some r => .ok r
  | none => .panic

/-- `&s[..i]`: the text up to byte `i`, or the panic of a slice at no character boundary. -/
def sliceTo {ε : Type} (s : List Char) (i : Nat) : Outcome ε (List Char) :=
  match getTo s i with
  | some r => .ok r
  | none => .panic

/-- `str::split_once(sep)`: the text before the first `sep` and the text after it. -/
def splitOnce (sep : Char) : List Char → Option (List Char × List Char)
  | [] => none
  | c :: cs => if c = sep then some ([], cs) else (splitOnce sep cs).map fun p => (c :: p.1, p.2)

/-- `str::rsplit_once(sep)`: the text before the last `sep` and the text after it. -/
def rsplitOnce (sep : Char) (s : List Char) : Option (List Char × List Char) :=
  (splitOnce sep s.reverse).map fun p => (p.2.reverse, p.1.reverse)

/-- `str::rfind(sep)`: the byte offset of the last `sep`. -/
def rfind (sep : Char) (s : List Char) : Option Nat :=
  (rsplitOnce sep s).map fun p => byteLen p.1

/-! ## Byte offsets -/

theorem utf8Size_eq_one_of_lt {c : Char} (hc : c.toNat < 128) : c.utf8Size = 1 := by
  apply Char.utf8Size_eq_one_iff.mpr
  rw [UInt32.le_iff_toNat_le]
  exact Nat.le_of_lt_succ hc

@[simp] theorem byteLen_nil : byteLen [] = 0 :=
  rfl

@[simp] theorem byteLen_cons (c : Char) (s : List Char) :
    byteLen (c :: s) = c.utf8Size + byteLen s := by
  simp [byteLen]

theorem length_strBytes (s : List Char) : (strBytes s).length = byteLen s := by
  simp [strBytes, byteLen, String.length_utf8EncodeChar]

theorem byteLen_append (s t : List Char) : byteLen (s ++ t) = byteLen s + byteLen t := by
  simp [byteLen]

theorem byteLen_of_ascii {s : List Char} (hs : IsAsciiText s) : byteLen s = s.length := by
  induction s with
  | nil => rfl
  | cons c s ih =>
    rw [byteLen_cons, utf8Size_eq_one_of_lt (hs c List.mem_cons_self),
      ih (fun d hd => hs d (List.mem_cons_of_mem _ hd)), List.length_cons, Nat.add_comm]

@[simp] theorem getFrom_zero (s : List Char) : getFrom s 0 = some s := by
  cases s <;> rfl

/-- Past a prefix, an offset counts from the prefix's end. -/
theorem getFrom_append_byteLen_add (s t : List Char) (i : Nat) :
    getFrom (s ++ t) (byteLen s + i) = getFrom t i := by
  induction s with
  | nil => simp
  | cons c s ih =>
    have hpos := Char.utf8Size_pos c
    -- the first character is skipped whole, whatever its width
    rw [List.cons_append, byteLen_cons,
      show c.utf8Size + byteLen s + i = (c.utf8Size - 1 + byteLen s + i) + 1 by omega, getFrom,
      if_pos (by omega), show c.utf8Size - 1 + byteLen s + i + 1 - c.utf8Size = byteLen s + i by
        omega, ih]

theorem getFrom_append_byteLen (s t : List Char) : getFrom (s ++ t) (byteLen s) = some t := by
  simpa using getFrom_append_byteLen_add s t 0

theorem sliceFrom_append_byteLen {ε : Type} (s t : List Char) :
    (sliceFrom (s ++ t) (byteLen s) : Outcome ε (List Char)) = .ok t := by
  rw [sliceFrom, getFrom_append_byteLen]

/-- An offset inside a character is no boundary. -/
theorem getFrom_cons_of_lt {c : Char} {i : Nat} (hi : i + 1 < c.utf8Size) (s : List Char) :
    getFrom (c :: s) (i + 1) = none :=
  if_neg (Nat.not_le.mpr hi)

@[simp] theorem getTo_zero (s : List Char) : getTo s 0 = some [] := by
  cases s <;> rfl

/-- Past a prefix, an end offset counts from the prefix's end, and the prefix stays in front. -/
theorem getTo_append_byteLen_add (s t : List Char) (i : Nat) :
    getTo (s ++ t) (byteLen s + i) = (getTo t i).map (s ++ ·) := by
  induction s with
  | nil => simp
  | cons c s ih =>
    have hpos := Char.utf8Size_pos c
    -- the first character is kept whole, whatever its width
    rw [List.cons_append, byteLen_cons,
      show c.utf8Size + byteLen s + i = (c.utf8Size - 1 + byteLen s + i) + 1 by omega, getTo,
      if_pos (by omega), show c.utf8Size - 1 + byteLen s + i + 1 - c.utf8Size = byteLen s + i by
        omega, ih, Option.map_map]
    rfl

theorem getTo_append_byteLen (s t : List Char) : getTo (s ++ t) (byteLen s) = some s := by
  simpa using getTo_append_byteLen_add s t 0

theorem sliceTo_append_byteLen {ε : Type} (s t : List Char) :
    (sliceTo (s ++ t) (byteLen s) : Outcome ε (List Char)) = .ok s := by
  rw [sliceTo, getTo_append_byteLen]

/-- An end offset inside a character is no boundary. -/
theorem getTo_cons_of_lt {c : Char} {i : Nat} (hi : i + 1 < c.utf8Size) (s : List Char) :
    getTo (c :: s) (i + 1) = none :=
  if_neg (Nat.not_le.mpr hi)

/-- In an ASCII text every offset up to its length is a boundary. -/
theorem getTo_of_ascii {s : List Char} (hs : IsAsciiText s) {i : Nat} (hi : i ≤ s.length) :
    getTo s i = some (s.take i) := by
  induction s generalizing i with
  | nil =>
    rw [List.length_nil, Nat.le_zero] at hi
    subst hi
    rfl
  | cons c s ih =>
    cases i with
    | zero => rfl
    | succ i =>
      have hc : c.utf8Size = 1 := utf8Size_eq_one_of_lt (hs c List.mem_cons_self)
      have hrest := ih (fun d hd => hs d (List.mem_cons_of_mem _ hd))
        (Nat.le_of_succ_le_succ hi)
      rw [getTo, if_pos (by omega), hc, Nat.add_sub_cancel, hrest]
      rfl

/-! ## Splitting -/

theorem splitOnce_eq_none_iff {sep : Char} {s : List Char} : splitOnce sep s = none ↔ sep ∉ s := by
  induction s with
  | nil => simp [splitOnce]
  | cons c s ih =>
    by_cases hc : c = sep
    · simp [splitOnce, hc]
    · rw [splitOnce, if_neg hc, Option.map_eq_none_iff, ih, List.mem_cons, not_or]
      exact ⟨fun h => ⟨Ne.symm hc, h⟩, fun h => h.2⟩

theorem splitOnce_eq_none {sep : Char} {s : List Char} (hs : sep ∉ s) :
    splitOnce sep s = none :=
  splitOnce_eq_none_iff.mpr hs

theorem rsplitOnce_eq_none_iff {sep : Char} {s : List Char} :
    rsplitOnce sep s = none ↔ sep ∉ s := by
  rw [rsplitOnce, Option.map_eq_none_iff, splitOnce_eq_none_iff, List.mem_reverse]

/-- What `split_once` cuts a text into puts it back together around the separator. -/
theorem eq_of_splitOnce {sep : Char} {s a b : List Char} (h : splitOnce sep s = some (a, b)) :
    s = a ++ sep :: b := by
  induction s generalizing a with
  | nil => cases h
  | cons c s ih =>
    unfold splitOnce at h
    split_ifs at h with hc
    · cases h
      rw [hc]
      rfl
    · obtain ⟨⟨a', b'⟩, hs, hab⟩ := Option.map_eq_some_iff.mp h
      cases hab
      rw [ih hs]
      rfl

theorem eq_of_rsplitOnce {sep : Char} {s a b : List Char} (h : rsplitOnce sep s = some (a, b)) :
    s = a ++ sep :: b := by
  obtain ⟨⟨a', b'⟩, hs, hab⟩ := Option.map_eq_some_iff.mp h
  cases hab
  have := congrArg List.reverse (eq_of_splitOnce hs)
  simpa using this

theorem rfind_of_rsplitOnce {sep : Char} {s a b : List Char}
    (h : rsplitOnce sep s = some (a, b)) : rfind sep s = some (byteLen a) := by
  rw [rfind, h]
  rfl

/-! ## Bytes -/

theorem strBytes_cons (c : Char) (s : List Char) :
    strBytes (c :: s) = String.utf8EncodeChar c ++ strBytes s :=
  List.flatMap_cons

theorem strBytes_append (s t : List Char) : strBytes (s ++ t) = strBytes s ++ strBytes t :=
  List.flatMap_append

/-- An ASCII character is its one byte. -/
theorem strBytes_cons_of_lt {c : Char} (hc : c.toNat < 128) (s : List Char) :
    strBytes (c :: s) = c.val.toUInt8 :: strBytes s := by
  rw [strBytes_cons, String.utf8EncodeChar_eq_singleton (utf8Size_eq_one_of_lt hc),
    List.singleton_append]

theorem toNat_toUInt8_of_lt {c : Char} (hc : c.toNat < 128) : c.val.toUInt8.toNat = c.toNat := by
  rw [UInt32.toNat_toUInt8]
  exact Nat.mod_eq_of_lt (Nat.lt_trans hc (by decide : 128 < 256))

theorem latin1Char_toUInt8 {c : Char} (hc : c.toNat < 128) : latin1Char c.val.toUInt8 = c := by
  rw [latin1Char, toNat_toUInt8_of_lt hc, Char.ofNat_toNat]

/-- The bytes of an ASCII text, read one character each, are the text. -/
theorem latin1_strBytes {s : List Char} (hs : IsAsciiText s) : latin1 (strBytes s) = s := by
  induction s with
  | nil => rfl
  | cons c s ih =>
    rw [strBytes_cons_of_lt (hs c List.mem_cons_self), latin1, List.map_cons,
      latin1Char_toUInt8 (hs c List.mem_cons_self)]
    exact congrArg _ (ih fun d hd => hs d (List.mem_cons_of_mem _ hd))

/-! ## Lossy decoding -/

/-- The bytes of a text decode to the text, whatever follows them. -/
theorem utf8Lossy_strBytes_append (s : List Char) (rest : List UInt8) :
    utf8Lossy (strBytes s ++ rest) = s ++ utf8Lossy rest := by
  induction s with
  | nil => rfl
  | cons c s ih =>
    rw [strBytes_cons, List.append_assoc, utf8Lossy_utf8EncodeChar_append, ih, List.cons_append]

theorem utf8Lossy_strBytes (s : List Char) : utf8Lossy (strBytes s) = s := by
  have h := utf8Lossy_strBytes_append s []
  rwa [List.append_nil, show utf8Lossy [] = [] from rfl, List.append_nil] at h

theorem toNat_ofNat_of_lt_128 {n : Nat} (h : n < 128) : (Char.ofNat n).toNat = n := by
  rw [Char.toNat_ofNat, if_pos (Or.inl (by omega))]

/-- A high byte that no continuation byte follows is one replacement character. -/
theorem utf8Lossy_high_cons {b c : UInt8} (hb : 128 ≤ b.toNat) (hc : c.toNat < 128)
    (rest : List UInt8) :
    utf8Lossy (b :: c :: rest) = '�' :: utf8Lossy (c :: rest) := by
  have hcont : ¬IsCont c := fun h => by unfold IsCont at h; omega
  rw [utf8Lossy.eq_def]
  dsimp only
  rw [if_neg (by omega)]
  -- whatever width the lead byte asks for, the byte after it is out of range
  by_cases h₂ : 0xC2 ≤ b.toNat ∧ b.toNat ≤ 0xDF
  · rw [if_pos h₂, if_neg hcont]
  rw [if_neg h₂]
  by_cases h₃ : 0xE0 ≤ b.toNat ∧ b.toNat ≤ 0xEF
  · rw [if_pos h₃, if_neg (by unfold Second3 IsCont; omega)]
  rw [if_neg h₃]
  by_cases h₄ : 0xF0 ≤ b.toNat ∧ b.toNat ≤ 0xF4
  · rw [if_pos h₄, if_neg (by unfold Second4 IsCont; omega)]
  rw [if_neg h₄]

end Wire
