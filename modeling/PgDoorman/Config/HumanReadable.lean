import PgDoorman.Auth.Hba
import PgDoorman.Wire.Cursor
import PgDoorman.Wire.Str
import PgDoorman.Wire.Lowercase

/-!
# Human-readable sizes and durations

`ByteSize` and `Duration` read a configuration value written as a number, or as a number and a
unit: `parse_byte_size` takes `B`, `K`, `KB`, `M`, `MB`, `G` and `GB` in any case, in powers of
1024, and `parse_duration` takes `ms`, `s`, `m`, `h` and `d`, in milliseconds. Both trim the
text and try it as a plain `u64`; otherwise they test the lowercased text against their suffixes
in order, cut the suffix off the original text by the suffix's length in bytes, trim and parse
what is left, and multiply.

## The model

The two parsers share one body, `parseWithSuffix`, applied to each one's table of suffixes and
its two error messages. The text is lowercased with `str::to_lowercase` (`Wire.strToLowercase`),
under which ASCII and whitespace keep their lowercase whatever surrounds them. The product is the
`u64` multiplication of a release build, which wraps.

## Main definitions

* `parseU64`: `u64::from_str`
* `parseWithSuffix`, `parseByteSize`, `parseDuration`: the parsers
* `SuffixedNumber`: a number and a suffix, with whitespace around and between them

## Main results

* `parseWithSuffix_suffixedNumber`: a number and a suffix read as the number times the
  suffix's multiplier, modulo `2^64`
* `parseWithSuffix_ne_panic_of_ascii`: on ASCII text the parsers do not panic
* `parseWithSuffix_wide_suffix_panics`: a suffix whose first letter is written as a wider
  character makes them panic, as the Kelvin sign does for `K`
-/

namespace PgDoorman.Config

open Wire Auth

/-! ## Numbers -/

/-- The digits `u64::from_str` reads: a leading `+` goes when something follows it. -/
def unsignedDigits : List Char → List Char
  | '+' :: c :: cs => c :: cs
  | s => s

/-- The value of decimal digits. -/
def digitsValue (digits : List Char) : Nat :=
  digits.foldl (fun acc c => 10 * acc + (c.toNat - '0'.toNat)) 0

/-- `u64::from_str`: at least one ASCII digit after the optional `+`, and a value below `2^64`.
The code stops at the first digit that overflows, with the same error. -/
def parseU64 (s : List Char) : Option UInt64 :=
  let digits := unsignedDigits s
  if digits ≠ [] ∧ (∀ c ∈ digits, c.isDigit = true) ∧ digitsValue digits < 2 ^ 64 then
    some (UInt64.ofNat (digitsValue digits))
  else none

/-! ## The parsers -/

/-- The shared body of `parse_byte_size` and `parse_duration`: the trimmed text as a plain `u64`,
or else the number before the first of `suffixes` that the lowercased text ends with, times that
suffix's multiplier. The suffix is cut off the original text by its length in bytes. -/
def parseWithSuffix (suffixes : List (List Char × UInt64))
    (formatError numberError : List Char → String) (s : List Char) : Outcome String UInt64 :=
  let s := trim s
  match parseU64 s with
  | some n => .ok n
  | none =>
    match suffixes.find? (fun e => e.1.isSuffixOf (strToLowercase s)) with
    | none => .err (formatError s)
    | some (suffix, multiplier) =>
      -- `s.len() - k` below zero wraps, or panics, and the slice panics after it
      if byteLen s < suffix.length then .panic
      else do
        let numStr ← sliceTo s (byteLen s - suffix.length)
        match parseU64 (trim numStr) with
        | some num => .ok (num * multiplier)
        | none => .err (numberError numStr)

/-- `ByteSize`: a size in bytes. -/
structure ByteSize where
  bytes : UInt64
  deriving Repr, DecidableEq

/-- The suffixes of `parse_byte_size` in the order it tests them, `gb` before `g` and `b`, with
their multipliers in binary units. -/
def byteSizeSuffixes : List (List Char × UInt64) :=
  [(['g', 'b'], 1024 * 1024 * 1024), (['g'], 1024 * 1024 * 1024), (['m', 'b'], 1024 * 1024),
    (['m'], 1024 * 1024), (['k', 'b'], 1024), (['k'], 1024), (['b'], 1)]

/-- `parse_byte_size`. -/
def parseByteSize (s : List Char) : Outcome String ByteSize :=
  ByteSize.mk <$> parseWithSuffix byteSizeSuffixes
    (fun s => "invalid byte size format: '" ++ String.ofList s ++
      "'. Expected a number or a string with suffix (B, K, KB, M, MB, G, GB)")
    (fun numStr => "invalid number in byte size: '" ++ String.ofList numStr ++ "'") s

/-- `Duration`: a duration in milliseconds. -/
structure Duration where
  millis : UInt64
  deriving Repr, DecidableEq

/-- The suffixes of `parse_duration` in the order it tests them, `ms` before `s` and `m`, with
their multipliers in milliseconds. -/
def durationSuffixes : List (List Char × UInt64) :=
  [(['m', 's'], 1), (['s'], 1000), (['m'], 60 * 1000), (['h'], 60 * 60 * 1000),
    (['d'], 24 * 60 * 60 * 1000)]

/-- `parse_duration`. -/
def parseDuration (s : List Char) : Outcome String Duration :=
  Duration.mk <$> parseWithSuffix durationSuffixes
    (fun s => "invalid duration format: '" ++ String.ofList s ++
      "'. Expected a number or a string with suffix (ms, s, m, h, d)")
    (fun numStr => "invalid number in duration: '" ++ String.ofList numStr ++ "'") s

/-! ## The grammar -/

/-- A number and a suffix: whitespace, decimal digits, whitespace, the suffix as written (ASCII,
in any case), whitespace. -/
structure SuffixedNumber where
  lead : List Char
  digits : List Char
  gap : List Char
  suffix : List Char
  trail : List Char
  lead_whitespace : ∀ c ∈ lead, isWhitespace c = true
  digits_ne_nil : digits ≠ []
  digits_digit : ∀ c ∈ digits, c.isDigit = true
  gap_whitespace : ∀ c ∈ gap, isWhitespace c = true
  suffix_ascii : IsAsciiText suffix
  trail_whitespace : ∀ c ∈ trail, isWhitespace c = true

namespace SuffixedNumber

/-- The text. -/
def text (q : SuffixedNumber) : List Char :=
  q.lead ++ q.digits ++ q.gap ++ q.suffix ++ q.trail

/-- The number the digits denote. -/
def value (q : SuffixedNumber) : Nat :=
  digitsValue q.digits

end SuffixedNumber

/-- `(suffix, multiplier)` is what a table finds in a lowercased text that ends with a digit or
whitespace and then `suffix`, and `suffix` is made of letters. -/
structure FirstMatch (suffixes : List (List Char × UInt64)) (suffix : List Char)
    (multiplier : UInt64) : Prop where
  find : ∀ (X : List Char) (x : Char), x.isDigit = true ∨ isWhitespace x = true →
    suffixes.find? (fun e => e.1.isSuffixOf (X ++ x :: suffix)) = some (suffix, multiplier)
  letters : ∀ c ∈ suffix, c.isDigit = false ∧ c ≠ '+' ∧ isWhitespace c = false
  ne_nil : suffix ≠ []

/-! ## Characters -/

theorem toLower_eq_self {c : Char} (h : c.toNat < 65 ∨ 90 < c.toNat) : c.toLower = c := by
  unfold Char.toLower
  rw [dif_neg]
  rintro ⟨hA, hZ⟩
  rw [ge_iff_le, UInt32.le_iff_toNat_le] at hA
  rw [UInt32.le_iff_toNat_le] at hZ
  have hA' : ('A'.val).toNat = 65 := rfl
  have hZ' : ('Z'.val).toNat = 90 := rfl
  simp only [Char.toNat] at h
  omega

theorem toNat_of_isDigit {c : Char} (h : c.isDigit = true) : 48 ≤ c.toNat ∧ c.toNat ≤ 57 := by
  simp only [Char.isDigit, Bool.and_eq_true, decide_eq_true_eq, ge_iff_le,
    UInt32.le_iff_toNat_le] at h
  have h0 : ('0'.val).toNat = 48 := rfl
  have h9 : ('9'.val).toNat = 57 := rfl
  simp only [Char.toNat]
  omega

theorem toNat_of_isWhitespace {c : Char} (h : isWhitespace c = true) :
    c.toNat < 65 ∨ 90 < c.toNat := by
  simp only [isWhitespace, Bool.or_eq_true, Bool.and_eq_true, decide_eq_true_eq,
    beq_iff_eq] at h
  omega

theorem toNat_lt_of_isDigit {c : Char} (h : c.isDigit = true) : c.toNat < 128 := by
  have hc := toNat_of_isDigit h
  omega

theorem toLower_of_isDigit {c : Char} (h : c.isDigit = true) : c.toLower = c :=
  toLower_eq_self (.inl (by have := toNat_of_isDigit h; omega))

theorem toLower_of_isWhitespace {c : Char} (h : isWhitespace c = true) : c.toLower = c :=
  toLower_eq_self (toNat_of_isWhitespace h)

theorem isWhitespace_of_isDigit {c : Char} (h : c.isDigit = true) : isWhitespace c = false := by
  have hc := toNat_of_isDigit h
  simp only [isWhitespace, Bool.or_eq_false_iff, Bool.and_eq_false_iff, decide_eq_false_iff_not,
    beq_eq_false_iff_ne]
  omega

/-- Digits, `+` and whitespace are their own lowercase, so a character whose lowercase is none of
them is none of them either. -/
theorem letter_of_toLower {c : Char}
    (h : c.toLower.isDigit = false ∧ c.toLower ≠ '+' ∧ isWhitespace c.toLower = false) :
    c.isDigit = false ∧ c ≠ '+' ∧ isWhitespace c = false := by
  obtain ⟨hd, hp, hw⟩ := h
  refine ⟨?_, ?_, ?_⟩
  · cases hc : c.isDigit
    · rfl
    · rw [toLower_of_isDigit hc, hc] at hd
      cases hd
  · rintro rfl
    exact hp (by decide)
  · cases hc : isWhitespace c
    · rfl
    · rw [toLower_of_isWhitespace hc, hc] at hw
      cases hw

/-- A digit or whitespace is no letter of a suffix. -/
theorem beq_eq_false_of_letter {x a : Char} (hx : x.isDigit = true ∨ isWhitespace x = true)
    (ha : a.isDigit = false ∧ isWhitespace a = false) : (a == x) = false := by
  rw [beq_eq_false_iff_ne]
  rintro rfl
  rcases hx with hx | hx
  · rw [ha.1] at hx
    cases hx
  · rw [ha.2] at hx
    cases hx

/-! ## Lowercase -/

/-- No entry of `LOWERCASE_TABLE` lies in the stretches of code points that hold the whitespace
past ASCII: the next line and the no-break space, the Ogham space, the spaces and separators of
General Punctuation, and the ideographic space. -/
theorem lowercaseTable_keys_not_whitespace :
    ∀ e ∈ lowercaseTable, (e.1 < 0x80 ∨ 0xBF < e.1) ∧ (e.1 < 0x1400 ∨ 0x1C88 < e.1) ∧
      (e.1 < 0x1FFD ∨ 0x2125 < e.1) ∧ (e.1 < 0x2D00 ∨ 0xA63F < e.1) := by
  decide +kernel

/-- Whitespace is its own lowercase. -/
theorem charToLowercase_of_isWhitespace {c : Char} (h : isWhitespace c = true) :
    charToLowercase c = [c] := by
  by_cases hascii : c.toNat < 128
  · rw [charToLowercase_of_lt hascii, toLower_of_isWhitespace h]
  · have hws := h
    simp only [isWhitespace, Bool.or_eq_true, Bool.and_eq_true, decide_eq_true_eq,
      beq_iff_eq] at hws
    refine charToLowercase_of_lookup_eq_none (Nat.not_lt.mp hascii) ?_ ?_
    · simp only [lowercaseTableMulti, List.lookup_cons, List.lookup_nil]
      rw [beq_eq_false_iff_ne.mpr (by omega)]
    · rw [List.lookup_eq_none_iff]
      intro e he
      have hgap := lowercaseTable_keys_not_whitespace e he
      rw [bne_iff_ne]
      omega

/-- ASCII and whitespace keep their lowercase, whatever surrounds them. -/
theorem lowercaseFrom_of_plain (before : List Char) {q : List Char}
    (hq : ∀ c ∈ q, c.toNat < 128 ∨ isWhitespace c = true) :
    lowercaseFrom before q = q.map Char.toLower := by
  refine lowercaseFrom_of_forall before fun c hc => ?_
  -- `Σ` is neither ASCII nor whitespace
  have hsigma : c ≠ 'Σ' := by
    rintro rfl
    rcases hq _ hc with h | h
    · exact absurd h (by decide)
    · exact absurd h (by decide)
  rcases hq c hc with hascii | hws
  · exact ⟨hsigma, charToLowercase_of_lt hascii⟩
  · exact ⟨hsigma, by rw [charToLowercase_of_isWhitespace hws, toLower_of_isWhitespace hws]⟩

theorem strToLowercase_of_ascii {s : List Char} (hs : IsAsciiText s) :
    strToLowercase s = s.map Char.toLower :=
  lowercaseFrom_of_plain [] fun c hc => .inl (hs c hc)

/-- A text that ends in ASCII and whitespace ends, once lowercased, in the lowercase of that
tail. -/
theorem strToLowercase_append_plain (p : List Char) {q : List Char}
    (hq : ∀ c ∈ q, c.toNat < 128 ∨ isWhitespace c = true) :
    ∃ X, strToLowercase (p ++ q) = X ++ q.map Char.toLower := by
  obtain ⟨X, hX⟩ := lowercaseFrom_append [] p q
  exact ⟨X, by rw [strToLowercase, hX, lowercaseFrom_of_plain _ hq]⟩

/-! ## Trimming -/

theorem dropWhile_append_of_head {α : Type} {p : α → Bool} {xs ys : List α}
    (hys : ∀ y ∈ ys.head?, p y = false) :
    (xs ++ ys).dropWhile p = xs.dropWhile p ++ ys := by
  rw [List.dropWhile_append]
  split_ifs with hxs
  · rw [List.isEmpty_iff.mp hxs, List.nil_append]
    cases ys with
    | nil => rfl
    | cons y ys => exact List.dropWhile_cons_of_neg (by simpa using hys y rfl)
  · rfl

/-- Around a core that neither starts nor ends with whitespace, `trim` takes off the whitespace
after it and the leading whitespace before it. -/
theorem trim_append_append {lead core trail : List Char} (hcore : core ≠ [])
    (hhead : ∀ c ∈ core.head?, isWhitespace c = false)
    (hlast : ∀ c ∈ core.getLast?, isWhitespace c = false)
    (htrail : ∀ c ∈ trail, isWhitespace c = true) :
    trim (lead ++ core ++ trail) = lead.dropWhile isWhitespace ++ core := by
  have hfront : (lead ++ core ++ trail).dropWhile isWhitespace =
      lead.dropWhile isWhitespace ++ (core ++ trail) := by
    rw [List.append_assoc]
    apply dropWhile_append_of_head
    rwa [List.head?_append_of_ne_nil _ hcore]
  -- from the back: the reversed trail goes, and the core's last character stops the drop
  have hback : (trail.reverse ++ (core.reverse ++ (lead.dropWhile isWhitespace).reverse)).dropWhile
      isWhitespace = core.reverse ++ (lead.dropWhile isWhitespace).reverse := by
    have htail : trail.reverse.dropWhile isWhitespace = [] :=
      List.dropWhile_eq_nil_iff.mpr fun c hc => htrail c (List.mem_reverse.mp hc)
    rw [dropWhile_append_of_head, htail, List.nil_append]
    rw [List.head?_append_of_ne_nil _ (List.reverse_ne_nil_iff.mpr hcore), List.head?_reverse]
    exact hlast
  rw [trim, hfront, List.reverse_append, List.reverse_append, List.append_assoc, hback,
    List.reverse_append, List.reverse_reverse, List.reverse_reverse]

/-! ## The grammar's texts -/

namespace SuffixedNumber

variable (q : SuffixedNumber)

theorem isWhitespace_of_mem_digits {d : Char} (hd : d ∈ q.digits) : isWhitespace d = false :=
  isWhitespace_of_isDigit (q.digits_digit d hd)

/-- The digits and the gap end with a digit or whitespace. -/
theorem exists_digits_append_gap :
    ∃ pre x, q.digits ++ q.gap = pre ++ [x] ∧ (x.isDigit = true ∨ isWhitespace x = true) := by
  rcases List.eq_nil_or_concat (q.digits ++ q.gap) with h | ⟨pre, x, h⟩
  · exact absurd (List.append_eq_nil_iff.mp h).1 q.digits_ne_nil
  · refine ⟨pre, x, by rw [h, List.concat_eq_append], ?_⟩
    have hxmem : x ∈ q.digits ++ q.gap := by
      rw [h, List.concat_eq_append]
      exact List.mem_concat_self
    rcases List.mem_append.mp hxmem with hd | hg
    · exact .inl (q.digits_digit x hd)
    · exact .inr (q.gap_whitespace x hg)

/-- Trimmed, the digits and the gap are the digits. -/
theorem trim_digits_append_gap : trim (q.digits ++ q.gap) = q.digits := by
  have h := @trim_append_append [] q.digits q.gap q.digits_ne_nil
    (fun d hd => q.isWhitespace_of_mem_digits (List.mem_of_mem_head? hd))
    (fun d hd => q.isWhitespace_of_mem_digits (List.mem_of_mem_getLast? hd)) q.gap_whitespace
  rwa [List.nil_append, List.dropWhile_nil, List.nil_append] at h

/-- Trimmed, the text is its digits, gap and suffix, when the suffix ends with no whitespace. -/
theorem trim_text (hne : q.suffix ≠ [])
    (hlast : ∀ c ∈ q.suffix.getLast?, isWhitespace c = false) :
    trim q.text = q.digits ++ q.gap ++ q.suffix := by
  have hhead : ∀ d ∈ (q.digits ++ q.gap ++ q.suffix).head?, isWhitespace d = false := by
    rw [List.append_assoc, List.head?_append_of_ne_nil _ q.digits_ne_nil]
    exact fun d hd => q.isWhitespace_of_mem_digits (List.mem_of_mem_head? hd)
  have hlast' : ∀ d ∈ (q.digits ++ q.gap ++ q.suffix).getLast?, isWhitespace d = false := by
    rwa [List.getLast?_append_of_ne_nil _ hne]
  have h := @trim_append_append q.lead _ q.trail (by simp [q.digits_ne_nil]) hhead hlast'
    q.trail_whitespace
  rw [List.dropWhile_eq_nil_iff.mpr q.lead_whitespace, List.nil_append] at h
  rw [← h, text]
  simp only [List.append_assoc]

end SuffixedNumber

/-! ## Reading a `u64` -/

theorem unsignedDigits_of_head {s : List Char} (h : ∀ c ∈ s.head?, c ≠ '+') :
    unsignedDigits s = s := by
  unfold unsignedDigits
  split
  · exact absurd rfl (h '+' rfl)
  · rfl

theorem mem_unsignedDigits {s : List Char} {c : Char} (hc : c ∈ s) (hplus : c ≠ '+') :
    c ∈ unsignedDigits s := by
  unfold unsignedDigits
  split
  · rcases List.mem_cons.mp hc with rfl | hc
    · exact absurd rfl hplus
    · exact hc
  · exact hc

theorem parseU64_of_digits {digits : List Char} (hne : digits ≠ [])
    (hdigit : ∀ c ∈ digits, c.isDigit = true) (hfits : digitsValue digits < 2 ^ 64) :
    parseU64 digits = some (UInt64.ofNat (digitsValue digits)) := by
  have hplain : unsignedDigits digits = digits := by
    apply unsignedDigits_of_head
    rintro c hc rfl
    have h := hdigit '+' (List.mem_of_mem_head? hc)
    cases h
  rw [parseU64, hplain, if_pos ⟨hne, hdigit, hfits⟩]

/-- A character that is neither a digit nor `+` makes the text no `u64`. -/
theorem parseU64_eq_none_of_mem {s : List Char} {c : Char} (hc : c ∈ s)
    (hdigit : c.isDigit = false) (hplus : c ≠ '+') : parseU64 s = none := by
  rw [parseU64, if_neg]
  rintro ⟨-, hall, -⟩
  rw [hall c (mem_unsignedDigits hc hplus)] at hdigit
  cases hdigit

/-! ## What the parsers read -/

section Parse

variable (suffixes : List (List Char × UInt64))
  (formatError numberError : List Char → String)

theorem parseWithSuffix_of_parseU64 {s : List Char} {n : UInt64}
    (h : parseU64 (trim s) = some n) :
    parseWithSuffix suffixes formatError numberError s = .ok n := by
  unfold parseWithSuffix
  dsimp only
  rw [h]

theorem parseWithSuffix_of_find_none {s : List Char} (hplain : parseU64 (trim s) = none)
    (hfind : suffixes.find? (fun e => e.1.isSuffixOf (strToLowercase (trim s))) = none) :
    parseWithSuffix suffixes formatError numberError s = .err (formatError (trim s)) := by
  unfold parseWithSuffix
  dsimp only
  rw [hplain]
  dsimp only
  rw [hfind]

/-- The suffix branch: the text before the suffix's bytes, trimmed, as a `u64` times the
multiplier. -/
theorem parseWithSuffix_of_find {s suffix : List Char} {multiplier : UInt64}
    (hplain : parseU64 (trim s) = none)
    (hfind : suffixes.find? (fun e => e.1.isSuffixOf (strToLowercase (trim s))) =
      some (suffix, multiplier)) :
    parseWithSuffix suffixes formatError numberError s =
      if byteLen (trim s) < suffix.length then .panic
      else sliceTo (trim s) (byteLen (trim s) - suffix.length) >>= fun numStr =>
        match parseU64 (trim numStr) with
        | some num => .ok (num * multiplier)
        | none => .err (numberError numStr) := by
  unfold parseWithSuffix
  dsimp only
  rw [hplain]
  dsimp only
  rw [hfind]

/-- **The grammar.** A number and a suffix of the table read as the number times the suffix's
multiplier, in `u64` arithmetic: modulo `2^64`, and never as an error. -/
theorem parseWithSuffix_suffixedNumber (q : SuffixedNumber) {multiplier : UInt64}
    (hmatch : FirstMatch suffixes (q.suffix.map Char.toLower) multiplier)
    (hfits : q.value < 2 ^ 64) :
    parseWithSuffix suffixes formatError numberError q.text =
      .ok (UInt64.ofNat q.value * multiplier) := by
  -- the suffix as written ends with a letter
  obtain ⟨init, c, hsplit⟩ : ∃ init c, q.suffix = init ++ [c] := by
    rcases List.eq_nil_or_concat q.suffix with h | ⟨init, c, h⟩
    · exact absurd (by rw [h]; rfl) hmatch.ne_nil
    · exact ⟨init, c, by rw [h, List.concat_eq_append]⟩
  have hcmem : c ∈ q.suffix := by
    rw [hsplit]
    exact List.mem_concat_self
  obtain ⟨hcdigit, hcplus, hcws⟩ :=
    letter_of_toLower (hmatch.letters c.toLower (List.mem_map_of_mem hcmem))
  have htrim : trim q.text = q.digits ++ q.gap ++ q.suffix := by
    refine q.trim_text (List.ne_nil_of_mem hcmem) ?_
    rw [hsplit, List.getLast?_concat]
    rintro d ⟨⟩
    exact hcws
  have hplain : parseU64 (trim q.text) = none := by
    rw [htrim]
    exact parseU64_eq_none_of_mem (List.mem_append_right _ hcmem) hcdigit hcplus
  -- the lowercased text ends with the last digit or whitespace `x`, and the suffix
  obtain ⟨pre, x, hpre, hx⟩ := q.exists_digits_append_gap
  have hfind : suffixes.find? (fun e => e.1.isSuffixOf (strToLowercase (trim q.text))) =
      some (q.suffix.map Char.toLower, multiplier) := by
    have htail : ∀ d ∈ x :: q.suffix, d.toNat < 128 ∨ isWhitespace d = true := by
      intro d hd
      rcases List.mem_cons.mp hd with rfl | hd
      · rcases hx with hx | hx
        · exact .inl (toNat_lt_of_isDigit hx)
        · exact .inr hx
      · exact .inl (q.suffix_ascii d hd)
    obtain ⟨X, hX⟩ := strToLowercase_append_plain pre htail
    have hxlower : x.toLower = x := by
      rcases hx with hx | hx
      · exact toLower_of_isDigit hx
      · exact toLower_of_isWhitespace hx
    rw [htrim, hpre, List.append_assoc, List.singleton_append, hX, List.map_cons, hxlower]
    exact hmatch.find X x hx
  -- the cut leaves the digits and the gap, and trimming them leaves the digits
  have hbytes : byteLen (q.digits ++ q.gap ++ q.suffix) =
      byteLen (q.digits ++ q.gap) + (q.suffix.map Char.toLower).length := by
    rw [byteLen_append, byteLen_of_ascii q.suffix_ascii, List.length_map]
  rw [parseWithSuffix_of_find suffixes formatError numberError hplain hfind, htrim, hbytes,
    if_neg (by omega), Nat.add_sub_cancel, sliceTo_append_byteLen, Outcome.ok_bind,
    q.trim_digits_append_gap, parseU64_of_digits q.digits_ne_nil q.digits_digit hfits]
  rfl

/-- On ASCII text no suffix is cut inside a character: the parsers answer a number or an error,
and never panic. -/
theorem parseWithSuffix_ne_panic_of_ascii {s : List Char} (hs : IsAsciiText (trim s)) :
    parseWithSuffix suffixes formatError numberError s ≠ .panic := by
  cases hplain : parseU64 (trim s) with
  | some n =>
    rw [parseWithSuffix_of_parseU64 suffixes formatError numberError hplain]
    intro h
    cases h
  | none =>
    cases hfind : suffixes.find? (fun e => e.1.isSuffixOf (strToLowercase (trim s))) with
    | none =>
      rw [parseWithSuffix_of_find_none suffixes formatError numberError hplain hfind]
      intro h
      cases h
    | some e =>
      obtain ⟨suffix, multiplier⟩ := e
      -- the suffix is no longer than the text, whose bytes are its characters
      have hle : suffix.length ≤ (trim s).length := by
        have hsuf := List.find?_some hfind
        rw [strToLowercase_of_ascii hs] at hsuf
        have hlen := (List.isSuffixOf_iff_suffix.mp hsuf).length_le
        rwa [List.length_map] at hlen
      rw [parseWithSuffix_of_find suffixes formatError numberError hplain hfind,
        byteLen_of_ascii hs, if_neg (by omega), sliceTo, getTo_of_ascii hs (by omega)]
      dsimp only
      rw [Outcome.ok_bind]
      split <;> intro h <;> cases h

/-- A suffix whose first letter is written as a character wider than one byte is cut inside that
character: the slice panics. -/
theorem parseWithSuffix_wide_suffix_panics {s p rest suffix : List Char} {c : Char}
    {multiplier : UInt64} (htrim : trim s = p ++ c :: rest) (hwide : 2 ≤ c.utf8Size)
    (hrest : IsAsciiText rest)
    (hfind : suffixes.find? (fun e => e.1.isSuffixOf (strToLowercase (trim s))) =
      some (suffix, multiplier))
    (hlen : suffix.length = rest.length + 1) :
    parseWithSuffix suffixes formatError numberError s = .panic := by
  -- a character wider than a byte is no digit and no `+`
  have hdigit : c.isDigit = false := by
    cases hc : c.isDigit
    · rfl
    · have h1 := utf8Size_eq_one_of_lt (toNat_lt_of_isDigit hc)
      omega
  have hplus : c ≠ '+' := by
    rintro rfl
    exact absurd hwide (by decide)
  have hplain : parseU64 (trim s) = none :=
    parseU64_eq_none_of_mem (by rw [htrim]; simp) hdigit hplus
  have hbytes : byteLen (trim s) = byteLen p + c.utf8Size + rest.length := by
    rw [htrim, byteLen_append, byteLen_cons, byteLen_of_ascii hrest, Nat.add_assoc]
  -- the cut falls one byte before the end of `c`
  have hcut : getTo (trim s) (byteLen (trim s) - suffix.length) = none := by
    rw [hbytes, hlen, show byteLen p + c.utf8Size + rest.length - (rest.length + 1) =
      byteLen p + ((c.utf8Size - 2) + 1) by omega, htrim, getTo_append_byteLen_add,
      getTo_cons_of_lt (by omega)]
    rfl
  rw [parseWithSuffix_of_find suffixes formatError numberError hplain hfind,
    if_neg (by omega), sliceTo, hcut]
  rfl

end Parse

/-! ## The two tables -/

/-- Each suffix of `parse_byte_size` is the first the table finds after a digit or whitespace:
`gb` is tested before `b`, but a `b` after a digit is no `gb`. -/
theorem firstMatch_byteSizeSuffixes :
    ∀ e ∈ byteSizeSuffixes, FirstMatch byteSizeSuffixes e.1 e.2 := by
  have hletters : ∀ e ∈ byteSizeSuffixes,
      (∀ c ∈ e.1, c.isDigit = false ∧ c ≠ '+' ∧ isWhitespace c = false) ∧ e.1 ≠ [] := by
    simp [byteSizeSuffixes, isWhitespace]
  intro e he
  refine ⟨fun X x hx => ?_, (hletters e he).1, (hletters e he).2⟩
  have hg := beq_eq_false_of_letter hx (a := 'g') (by decide)
  have hm := beq_eq_false_of_letter hx (a := 'm') (by decide)
  have hk := beq_eq_false_of_letter hx (a := 'k') (by decide)
  simp only [byteSizeSuffixes, List.mem_cons, List.not_mem_nil, or_false] at he
  rcases he with rfl | rfl | rfl | rfl | rfl | rfl | rfl <;>
    simp [byteSizeSuffixes, List.isSuffixOf, List.isPrefixOf, hg, hm, hk]

/-- Each suffix of `parse_duration` is the first the table finds after a digit or whitespace:
`ms` is tested before `s`, but an `s` after a digit is no `ms`. -/
theorem firstMatch_durationSuffixes :
    ∀ e ∈ durationSuffixes, FirstMatch durationSuffixes e.1 e.2 := by
  have hletters : ∀ e ∈ durationSuffixes,
      (∀ c ∈ e.1, c.isDigit = false ∧ c ≠ '+' ∧ isWhitespace c = false) ∧ e.1 ≠ [] := by
    simp [durationSuffixes, isWhitespace]
  intro e he
  refine ⟨fun X x hx => ?_, (hletters e he).1, (hletters e he).2⟩
  have hm := beq_eq_false_of_letter hx (a := 'm') (by decide)
  simp only [durationSuffixes, List.mem_cons, List.not_mem_nil, or_false] at he
  rcases he with rfl | rfl | rfl | rfl | rfl <;>
    simp [durationSuffixes, List.isSuffixOf, List.isPrefixOf, hm]

section Members

/-- `parse_byte_size` reads a number and one of its suffixes as the number times the unit, in
`u64` arithmetic. -/
theorem parseByteSize_suffixedNumber (q : SuffixedNumber) {multiplier : UInt64}
    (hentry : (q.suffix.map Char.toLower, multiplier) ∈ byteSizeSuffixes)
    (hfits : q.value < 2 ^ 64) :
    parseByteSize q.text = .ok ⟨UInt64.ofNat q.value * multiplier⟩ := by
  rw [parseByteSize, parseWithSuffix_suffixedNumber byteSizeSuffixes _ _ q
    (firstMatch_byteSizeSuffixes _ hentry) hfits]
  rfl

/-- `parse_duration` reads a number and one of its suffixes as the number times the unit, in
`u64` arithmetic. -/
theorem parseDuration_suffixedNumber (q : SuffixedNumber) {multiplier : UInt64}
    (hentry : (q.suffix.map Char.toLower, multiplier) ∈ durationSuffixes)
    (hfits : q.value < 2 ^ 64) :
    parseDuration q.text = .ok ⟨UInt64.ofNat q.value * multiplier⟩ := by
  rw [parseDuration, parseWithSuffix_suffixedNumber durationSuffixes _ _ q
    (firstMatch_durationSuffixes _ hentry) hfits]
  rfl

/-- Neither `parse_byte_size` nor `parse_duration` panics on a text that is ASCII once trimmed:
the wide suffix is the only way into their panic. -/
theorem parsers_ne_panic_of_ascii {s : List Char} (hs : IsAsciiText (trim s)) :
    parseByteSize s ≠ .panic ∧ parseDuration s ≠ .panic :=
  ⟨Outcome.map_ne_panic _ (parseWithSuffix_ne_panic_of_ascii _ _ _ hs),
    Outcome.map_ne_panic _ (parseWithSuffix_ne_panic_of_ascii _ _ _ hs)⟩

theorem parsers_ne_panic_of_ascii_padded :
    IsAsciiText (trim [' ', '6', '4', 'M', 'B', ' ']) ∧
      parseByteSize [' ', '6', '4', 'M', 'B', ' '] ≠ .panic ∧
        parseDuration [' ', '6', '4', 'M', 'B', ' '] ≠ .panic :=
  have hs : IsAsciiText (trim [' ', '6', '4', 'M', 'B', ' ']) := by
    simp [trim, isWhitespace, IsAsciiText]
  ⟨hs, parsers_ne_panic_of_ascii hs⟩

/-- Every text that ends in the Kelvin sign, alone or before a `b`, makes `parse_byte_size`
panic: the sign lowercases to `k` but is three bytes wide. -/
theorem parseByteSize_kelvin_panics (p : List Char) {b : List Char}
    (hb : b = [] ∨ b = ['b'] ∨ b = ['B']) :
    parseByteSize (p ++ '\u212A' :: b) = .panic := by
  have hbascii : IsAsciiText b := by
    rcases hb with rfl | rfl | rfl <;> simp [IsAsciiText]
  have htrim : trim (p ++ '\u212A' :: b) = p.dropWhile isWhitespace ++ '\u212A' :: b := by
    have hhead : ∀ c ∈ ('\u212A' :: b).head?, isWhitespace c = false := by
      simp only [List.head?_cons, Option.mem_some_iff, forall_eq']
      decide
    have hlast : ∀ c ∈ ('\u212A' :: b).getLast?, isWhitespace c = false := by
      rcases hb with rfl | rfl | rfl <;> simp [isWhitespace]
    have h := @trim_append_append p ('\u212A' :: b) [] (List.cons_ne_nil _ _) hhead hlast
      (by simp)
    rwa [List.append_nil] at h
  -- lowercased, the text ends with `k`, or `kb`
  obtain ⟨X, hX⟩ := lowercaseFrom_append [] (p.dropWhile isWhitespace) ('\u212A' :: b)
  have hlower : strToLowercase (trim (p ++ '\u212A' :: b)) = X ++ 'k' :: b.map Char.toLower := by
    rw [htrim, strToLowercase, hX, lowercaseFrom, lowerAt_of_ne (by decide), charToLowercase_kelvin,
      lowercaseFrom_of_plain _ fun c hc => .inl (hbascii c hc)]
    rfl
  have hfind : byteSizeSuffixes.find?
      (fun e => e.1.isSuffixOf (strToLowercase (trim (p ++ '\u212A' :: b)))) =
        some ('k' :: b.map Char.toLower, 1024) := by
    rw [hlower]
    rcases hb with rfl | rfl | rfl <;> simp [byteSizeSuffixes, List.isSuffixOf, List.isPrefixOf]
  have hwide : 2 ≤ ('\u212A').utf8Size := by
    rw [show ('\u212A').utf8Size = 3 from rfl]
    omega
  rw [parseByteSize, parseWithSuffix_wide_suffix_panics byteSizeSuffixes _ _ htrim hwide
    hbascii hfind (by simp)]
  rfl

theorem human_readable_parsers_wrap_and_panic :
    parseByteSize ("18446744073709551615".toList ++ ['K']) = .ok ⟨18446744073709550592⟩ ∧
      parseDuration ("18446744073709551615".toList ++ ['s']) = .ok ⟨18446744073709550616⟩ ∧
      parseByteSize ['1', '\u212A'] = .panic := by
  -- `u64::MAX`, and its digits
  have hmax : digitsValue "18446744073709551615".toList = 2 ^ 64 - 1 := rfl
  have hfits : digitsValue "18446744073709551615".toList < 2 ^ 64 := by
    rw [hmax]
    omega
  have hdigits : ∀ c ∈ "18446744073709551615".toList, c.isDigit = true := List.all_eq_true.mp rfl
  refine ⟨?_, ?_, parseByteSize_kelvin_panics ['1'] (.inl rfl)⟩
  · -- `(2^64 - 1) * 1024` wraps to `2^64 - 1024`
    have h := @parseByteSize_suffixedNumber
      ⟨[], "18446744073709551615".toList, [], ['K'], [], by simp, by simp, hdigits, by simp,
        by simp [IsAsciiText], by simp⟩ 1024 (by simp [byteSizeSuffixes]) hfits
    rw [SuffixedNumber.value, hmax] at h
    exact h
  · -- `(2^64 - 1) * 1000` wraps to `2^64 - 1000`
    have h := @parseDuration_suffixedNumber
      ⟨[], "18446744073709551615".toList, [], ['s'], [], by simp, by simp, hdigits, by simp,
        by simp [IsAsciiText], by simp⟩ 1000 (by simp [durationSuffixes]) hfits
    rw [SuffixedNumber.value, hmax] at h
    exact h

end Members

end PgDoorman.Config
