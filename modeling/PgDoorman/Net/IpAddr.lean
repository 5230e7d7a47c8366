import PgDoorman.Wire.Str

/-!
# IP addresses as text

The standard library prints an `IpAddr` with `Display` and reads one with `FromStr`. An IPv4
address prints as its four octets in decimal, separated by dots. An IPv6 address prints as its
eight segments in lower-case hexadecimal, separated by colons, with the longest run of two or
more zero segments (the first of them, if several are longest) written `::`; an IPv4-mapped
address `::ffff:a.b.c.d` prints its last four bytes as an IPv4 address.

The parser (`core::net::parser`) reads the bytes of the text: an IPv4 address, or else an IPv6
address, and the whole text must be read. An octet has at most three decimal digits and no
leading zero, a group at most four hexadecimal digits; `::` stands for one or more zero groups,
and an IPv6 address may end in an IPv4 address, which fills two groups. Each reader here takes
the bytes still to read and returns what it read with the bytes after it, or `none`; that is
also what `read_atomically` does, which puts the position back when its reader fails.

A `SocketAddr` is an address and a port, and for IPv6 also a flow label and a scope;
`SocketAddr::new` gives an IPv6 address neither.

## Main definitions

* `Ipv4Addr`, `Ipv6Addr`, `IpAddr`, `SocketAddr`, `SocketAddr.new`
* `IpAddr.toString`: `Display`, with `longestZeroSpan` and `fmtSubslice`
* `readNumber`, `readIpv4Addr`, `readGroups`, `readIpv6Addr`, `IpAddr.fromStr`: `FromStr`

## Main results

* `fromStr_toString`: every address is read back from the text it prints
* `length_utf8Bytes_toString`: that text has at most 39 bytes
-/

namespace Net

open Wire

/-! ## Addresses -/

/-- `Ipv4Addr`: the four octets. -/
structure Ipv4Addr where
  a : UInt8
  b : UInt8
  c : UInt8
  d : UInt8
  deriving Repr, DecidableEq

/-- `Ipv6Addr`: the eight 16-bit segments. -/
@[ext]
structure Ipv6Addr where
  segments : List UInt16
  length_segments : segments.length = 8
  deriving DecidableEq

/-- `IpAddr`. -/
inductive IpAddr where
  | v4 (ip : Ipv4Addr)
  | v6 (ip : Ipv6Addr)
  deriving DecidableEq

/-- `SocketAddr`: an IPv4 address and a port, or an IPv6 address, a port, its flow label and its
scope. -/
inductive SocketAddr where
  | v4 (ip : Ipv4Addr) (port : UInt16)
  | v6 (ip : Ipv6Addr) (port : UInt16) (flowinfo : UInt32) (scopeId : UInt32)
  deriving DecidableEq

namespace SocketAddr

/-- `SocketAddr::ip`. -/
def ip : SocketAddr → IpAddr
  | .v4 ip _ => .v4 ip
  | .v6 ip _ _ _ => .v6 ip

/-- `SocketAddr::port`. -/
def port : SocketAddr → UInt16
  | .v4 _ port => port
  | .v6 _ port _ _ => port

/-- `SocketAddr::new`: an IPv6 address gets flow label `0` and scope `0`. -/
def new : IpAddr → UInt16 → SocketAddr
  | .v4 ip, port => .v4 ip port
  | .v6 ip, port => .v6 ip port 0 0

end SocketAddr

/-! ## `Display` -/

/-- `Display` for `Ipv4Addr`: `"{}.{}.{}.{}"` of the octets. -/
def Ipv4Addr.toString (ip : Ipv4Addr) : List Char :=
  Nat.toDigits 10 ip.a.toNat ++ '.' :: Nat.toDigits 10 ip.b.toNat ++ '.' ::
    Nat.toDigits 10 ip.c.toNat ++ '.' :: Nat.toDigits 10 ip.d.toNat

/-- `{:x}` of a segment: its lower-case hexadecimal digits. -/
def hexDigits (g : UInt16) : List Char :=
  Nat.toDigits 16 g.toNat

/-- `fmt_subslice`: segments in hexadecimal, separated by `:`. -/
def fmtSubslice : List UInt16 → List Char
  | [] => []
  | g :: gs => hexDigits g ++ gs.flatMap fun g => ':' :: hexDigits g

/-- `Span`: a run of segments. -/
structure Span where
  start : Nat
  len : Nat
  deriving Repr, DecidableEq

/-- The loop that finds the longest run of zero segments: the `longest` run so far, and the
`current` one, which ends at segment `i`. -/
def zeroSpans : Nat → Span → Span → List UInt16 → Span
  | _, longest, _, [] => longest
  | i, longest, current, g :: gs =>
    if g = 0 then
      let current : Span := ⟨if current.len = 0 then i else current.start, current.len + 1⟩
      zeroSpans (i + 1) (if current.len > longest.len then current else longest) current gs
    else zeroSpans (i + 1) longest ⟨0, 0⟩ gs

/-- The longest run of zero segments, the first of the longest. -/
def longestZeroSpan (segments : List UInt16) : Span :=
  zeroSpans 0 ⟨0, 0⟩ ⟨0, 0⟩ segments

/-- `to_ipv4_mapped`: the IPv4 address of `::ffff:a.b.c.d`. -/
def Ipv6Addr.toIpv4Mapped (ip : Ipv6Addr) : Option Ipv4Addr :=
  match ip.segments with
  | [0, 0, 0, 0, 0, 0xffff, ab, cd] =>
    some ⟨(ab >>> 8).toUInt8, ab.toUInt8, (cd >>> 8).toUInt8, cd.toUInt8⟩
  | _ => none

/-- `Display` for `Ipv6Addr`. -/
def Ipv6Addr.toString (ip : Ipv6Addr) : List Char :=
  match ip.toIpv4Mapped with
  | some ipv4 => "::ffff:".toList ++ ipv4.toString
  | none =>
    let zeroes := longestZeroSpan ip.segments
    if zeroes.len > 1 then
      fmtSubslice (ip.segments.take zeroes.start) ++ "::".toList ++
        fmtSubslice (ip.segments.drop (zeroes.start + zeroes.len))
    else fmtSubslice ip.segments

/-- `IpAddr::to_string`. -/
def IpAddr.toString : IpAddr → String
  | .v4 ip => String.ofList ip.toString
  | .v6 ip => String.ofList ip.toString

/-! ## `FromStr` -/

/-- `read_char`: the next byte, as a character. -/
def readChar : List UInt8 → Option (Char × List UInt8)
  | [] => none
  | b :: bs => some (latin1Char b, bs)

/-- `read_given_char`. -/
def readGivenChar (target : Char) (s : List UInt8) : Option (List UInt8) :=
  match readChar s with
  | some (c, rest) => if c = target then some rest else none
  | none => none

/-- `read_separator`: the separator unless at index `0`, then `inner`. -/
def readSeparator {α : Type} (sep : Char) (index : Nat) (inner : List UInt8 → Option (α × List UInt8))
    (s : List UInt8) : Option (α × List UInt8) :=
  if 0 < index then (readGivenChar sep s).bind inner else inner s

/-- `char::to_digit(radix)`: a decimal digit, or for a radix above ten a letter of either
case. -/
def toDigit (radix : Nat) (c : Char) : Option Nat :=
  if 48 ≤ c.toNat ∧ c.toNat - 48 < 10 then
    if c.toNat - 48 < radix then some (c.toNat - 48) else none
  else if 10 < radix ∧ 97 ≤ (c.toNat ||| 32) ∧ (c.toNat ||| 32) - 97 + 10 < radix then
    some ((c.toNat ||| 32) - 97 + 10)
  else none

/-- The loop of `read_number` with at most `maxDigits` digits: digits are read while there are
any, and one past the limit fails. The value, and how many digits were read. -/
def readDigits (radix maxDigits : Nat) (result digitCount : Nat) :
    List UInt8 → Option (Nat × Nat × List UInt8)
  | [] => some (result, digitCount, [])
  | b :: bs =>
    match toDigit radix (latin1Char b) with
    | none => some (result, digitCount, b :: bs)
    | some digit =>
      if digitCount + 1 > maxDigits then none
      else readDigits radix maxDigits (result * radix + digit) (digitCount + 1) bs

/-- `read_number(radix, Some(max_digits), allow_zero_prefix)` into a type of `bound` values:
at least one digit, no leading zero unless allowed or alone, and a value the type holds. -/
def readNumber (radix maxDigits : Nat) (allowZeroPrefix : Bool) (bound : Nat) (s : List UInt8) :
    Option (Nat × List UInt8) :=
  let hasLeadingZero := (readChar s).map Prod.fst = some '0'
  match readDigits radix maxDigits 0 0 s with
  | none => none
  | some (result, digitCount, rest) =>
    if digitCount = 0 then none
    else if allowZeroPrefix = false ∧ hasLeadingZero ∧ 1 < digitCount then none
    else if result < bound then some (result, rest)
    else none

/-- An octet of `read_ipv4_addr`, after a `.` unless it is the first. -/
def readOctet (i : Nat) : List UInt8 → Option (UInt8 × List UInt8) :=
  readSeparator '.' i fun s => (readNumber 10 3 false 256 s).map fun r => (UInt8.ofNat r.1, r.2)

/-- `read_ipv4_addr`. -/
def readIpv4Addr (s : List UInt8) : Option (Ipv4Addr × List UInt8) := do
  let (a, s) ← readOctet 0 s
  let (b, s) ← readOctet 1 s
  let (c, s) ← readOctet 2 s
  let (d, s) ← readOctet 3 s
  pure (⟨a, b, c, d⟩, s)

/-- `u16::from_be_bytes`. -/
def fromBeBytes (hi lo : UInt8) : UInt16 :=
  hi.toUInt16 * 256 + lo.toUInt16

/-- A group of `read_groups`, after a `:` unless at index `0`: up to four hexadecimal digits,
leading zeros allowed. -/
def readGroup (i : Nat) : List UInt8 → Option (UInt16 × List UInt8) :=
  readSeparator ':' i fun s => (readNumber 16 4 true 65536 s).map fun r => (UInt16.ofNat r.1, r.2)

/-- `read_groups` from the slot of index `i`, with `slots` slots left: the groups read, whether
the last two were an IPv4 address, and the bytes after them. -/
def readGroups : Nat → Nat → List UInt8 → List UInt16 × Bool × List UInt8
  | _, 0, s => ([], false, s)
  | i, slots + 1, s =>
    -- an IPv4 address fills two slots, so it is tried only while two are left
    match (if 0 < slots then readSeparator ':' i readIpv4Addr s else none) with
    | some (ip, rest) => ([fromBeBytes ip.a ip.b, fromBeBytes ip.c ip.d], true, rest)
    | none =>
      match readGroup i s with
      | some (g, rest) =>
        let r := readGroups (i + 1) slots rest
        (g :: r.1, r.2.1, r.2.2)
      | none => ([], false, s)

theorem length_readGroups_le (i slots : Nat) (s : List UInt8) :
    (readGroups i slots s).1.length ≤ slots := by
  induction slots generalizing i s with
  | zero => simp [readGroups]
  | succ slots ih =>
    unfold readGroups
    split
    · -- the IPv4 address was tried, so at least two slots were left
      rename_i h
      split at h
      · simp
        omega
      · cases h
    · split
      · simpa using ih (i + 1) _
      · simp

/-- `read_ipv6_addr`: groups up to a `::`, then groups after it, with zeros between. -/
def readIpv6Addr (s : List UInt8) : Option (Ipv6Addr × List UInt8) :=
  let head := readGroups 0 8 s
  if h8 : head.1.length = 8 then some (⟨head.1, h8⟩, head.2.2)
  -- an IPv4 address is not allowed before `::`
  else if head.2.1 then none
  else
    match readGivenChar ':' head.2.2 with
    | none => none
    | some s₁ =>
      match readGivenChar ':' s₁ with
      | none => none
      | some s₂ =>
        let tail := readGroups 0 (8 - (head.1.length + 1)) s₂
        some (⟨head.1 ++ List.replicate (8 - head.1.length - tail.1.length) 0 ++ tail.1, by
          have hhead : head.1.length ≤ 8 := length_readGroups_le 0 8 s
          have htail : tail.1.length ≤ 8 - (head.1.length + 1) :=
            length_readGroups_le 0 (8 - (head.1.length + 1)) s₂
          simp only [List.length_append, List.length_replicate]
          omega⟩, tail.2.2)

/-- `read_ip_addr`: an IPv4 address, or else an IPv6 address. -/
def readIpAddr (s : List UInt8) : Option (IpAddr × List UInt8) :=
  match readIpv4Addr s with
  | some (ip, rest) => some (.v4 ip, rest)
  | none => (readIpv6Addr s).map fun r => (.v6 r.1, r.2)

/-- `IpAddr::from_str`: an address, and nothing after it. -/
def IpAddr.fromStr (s : String) : Option IpAddr :=
  match readIpAddr (utf8Bytes s) with
  | some (ip, []) => some ip
  | _ => none

/-! ## Digits and bytes

The printed forms are ASCII: each character is one byte, read back as itself. -/

/-- The bytes do not go on with a digit of `radix`: a number read from before them ends there. -/
def NoDigitNext (radix : Nat) : List UInt8 → Prop
  | [] => True
  | b :: _ => toDigit radix (latin1Char b) = none

@[simp] theorem noDigitNext_nil (radix : Nat) : NoDigitNext radix [] :=
  trivial

theorem digitChar_lt_128 : ∀ d < 16, (Nat.digitChar d).toNat < 128 := by
  decide

theorem toDigit_digitChar {radix : Nat} (hr : radix = 10 ∨ radix = 16) :
    ∀ d < radix, toDigit radix (Nat.digitChar d) = some d := by
  rcases hr with rfl | rfl <;> decide

/-- Every character of `Nat.toDigits` is the digit of a number below the base. -/
theorem mem_toDigits {b : Nat} (hb : 1 < b) (n : Nat) {c : Char} (hc : c ∈ Nat.toDigits b n) :
    ∃ d < b, c = Nat.digitChar d := by
  induction n using Nat.strong_induction_on with
  | _ n ih =>
    rw [Nat.toDigits_eq_if hb] at hc
    split at hc
    · exact ⟨n, ‹_›, List.mem_singleton.mp hc⟩
    · rcases List.mem_append.mp hc with hc | hc
      · exact ih (n / b) (Nat.div_lt_self (by omega) hb) hc
      · exact ⟨n % b, Nat.mod_lt n (by omega), List.mem_singleton.mp hc⟩

/-- Only zero is printed with a leading `0`. -/
theorem eq_zero_of_toDigits_eq_cons {b n : Nat} (hb : 1 < b) {cs : List Char}
    (h : Nat.toDigits b n = '0' :: cs) : n = 0 := by
  induction n using Nat.strong_induction_on generalizing cs with
  | _ n ih =>
    rw [Nat.toDigits_eq_if hb] at h
    split at h
    · exact Nat.digitChar_eq_zero.mp (List.cons.inj h).1
    · -- the leading digit is that of `n / b`, which is then zero
      rename_i hn
      obtain ⟨c, cs', hcs⟩ := List.exists_cons_of_ne_nil (Nat.toDigits_ne_nil (n := n / b) (b := b))
      rw [hcs, List.cons_append, List.cons.injEq] at h
      rw [h.1] at hcs
      have hq := ih (n / b) (Nat.div_lt_self (by omega) hb) hcs
      rcases Nat.div_eq_zero_iff.mp hq with h0 | hlt <;> omega

theorem readChar_strBytes_cons {c : Char} (hc : c.toNat < 128) (cs : List Char)
    (rest : List UInt8) : readChar (strBytes (c :: cs) ++ rest) = some (c, strBytes cs ++ rest) := by
  rw [strBytes_cons_of_lt hc, List.cons_append, readChar, latin1Char_toUInt8 hc]

theorem readGivenChar_toUInt8 {c : Char} (hc : c.toNat < 128) (rest : List UInt8) :
    readGivenChar c (c.val.toUInt8 :: rest) = some rest := by
  rw [readGivenChar]
  simp only [readChar, latin1Char_toUInt8 hc, ↓reduceIte]

theorem readGivenChar_strBytes_cons {c : Char} (hc : c.toNat < 128) (cs : List Char)
    (rest : List UInt8) : readGivenChar c (strBytes (c :: cs) ++ rest) = some (strBytes cs ++ rest) := by
  rw [strBytes_cons_of_lt hc, List.cons_append, readGivenChar_toUInt8 hc]

theorem noDigitNext_strBytes_cons {radix : Nat} {c : Char} (hc : c.toNat < 128)
    (h : toDigit radix c = none) (cs : List Char) (rest : List UInt8) :
    NoDigitNext radix (strBytes (c :: cs) ++ rest) := by
  rw [strBytes_cons_of_lt hc, List.cons_append, NoDigitNext, latin1Char_toUInt8 hc]
  exact h

@[simp] theorem readSeparator_zero {α : Type} (sep : Char)
    (inner : List UInt8 → Option (α × List UInt8)) (s : List UInt8) :
    readSeparator sep 0 inner s = inner s :=
  rfl

@[simp] theorem readSeparator_succ {α : Type} (sep : Char) (i : Nat)
    (inner : List UInt8 → Option (α × List UInt8)) (s : List UInt8) :
    readSeparator sep (i + 1) inner s = (readGivenChar sep s).bind inner :=
  if_pos (Nat.succ_pos i)

/-! ## Reading numbers -/

/-- A number that ends before `rest` is read up to it. -/
theorem readDigits_of_noDigitNext {radix maxDigits result digitCount : Nat} {rest : List UInt8}
    (h : NoDigitNext radix rest) :
    readDigits radix maxDigits result digitCount rest = some (result, digitCount, rest) := by
  cases rest with
  | nil => rfl
  | cons b bs =>
    simp only [NoDigitNext] at h
    simp only [readDigits, h]

theorem readNumber_of_noDigitNext {radix maxDigits bound : Nat} {allowZeroPrefix : Bool}
    {s : List UInt8} (h : NoDigitNext radix s) :
    readNumber radix maxDigits allowZeroPrefix bound s = none := by
  simp [readNumber, readDigits_of_noDigitNext h]

theorem readDigits_digitChar {radix maxDigits result digitCount d : Nat}
    (hr : radix = 10 ∨ radix = 16) (hd : d < radix) (hmax : digitCount + 1 ≤ maxDigits)
    (rest : List UInt8) :
    readDigits radix maxDigits result digitCount (strBytes [Nat.digitChar d] ++ rest) =
      readDigits radix maxDigits (result * radix + d) (digitCount + 1) rest := by
  have hasc := digitChar_lt_128 d (by omega)
  rw [strBytes_cons_of_lt hasc, List.cons_append, readDigits, latin1Char_toUInt8 hasc,
    toDigit_digitChar hr d hd]
  dsimp only
  rw [if_neg (by omega)]
  rfl

/-- The digits of `n` are read to `n`, one at a time from the most significant. -/
theorem readDigits_toDigits {radix maxDigits : Nat} (hr : radix = 10 ∨ radix = 16) (n : Nat)
    {result digitCount : Nat} (hmax : digitCount + (Nat.toDigits radix n).length ≤ maxDigits)
    (rest : List UInt8) :
    readDigits radix maxDigits result digitCount (strBytes (Nat.toDigits radix n) ++ rest) =
      readDigits radix maxDigits (result * radix ^ (Nat.toDigits radix n).length + n)
        (digitCount + (Nat.toDigits radix n).length) rest := by
  have hb : 1 < radix := by omega
  induction n using Nat.strong_induction_on generalizing result digitCount rest with
  | _ n ih =>
    by_cases hn : n < radix
    · rw [Nat.toDigits_of_lt_base hn] at hmax ⊢
      rw [readDigits_digitChar hr hn (by simpa using hmax)]
      simp
    · -- the last digit is read after those of `n / radix`
      rw [Nat.toDigits_of_base_le hb (Nat.le_of_not_lt hn)] at hmax ⊢
      simp only [List.length_append, List.length_singleton] at hmax ⊢
      rw [strBytes_append, List.append_assoc, ih (n / radix) (Nat.div_lt_self (by omega) hb)
        (by omega), readDigits_digitChar hr (Nat.mod_lt n (by omega)) (by omega)]
      have hval : (result * radix ^ (Nat.toDigits radix (n / radix)).length + n / radix) * radix +
          n % radix = result * radix ^ ((Nat.toDigits radix (n / radix)).length + 1) + n := by
        calc _ = result * radix ^ (Nat.toDigits radix (n / radix)).length * radix +
              (radix * (n / radix) + n % radix) := by ring
          _ = _ := by rw [Nat.div_add_mod, Nat.pow_succ, Nat.mul_assoc]
      rw [hval, Nat.add_assoc]

/-- A number printed by `Nat.toDigits` is read back, when its digits are within the limit, its
value is below the bound, and no digit follows it. -/
theorem readNumber_toDigits {radix maxDigits bound n : Nat} (hr : radix = 10 ∨ radix = 16)
    (hmax : (Nat.toDigits radix n).length ≤ maxDigits) (hn : n < bound) (allowZeroPrefix : Bool)
    {rest : List UInt8} (hnext : NoDigitNext radix rest) :
    readNumber radix maxDigits allowZeroPrefix bound (strBytes (Nat.toDigits radix n) ++ rest) =
      some (n, rest) := by
  have hb : 1 < radix := by omega
  obtain ⟨c, cs, hcs⟩ := List.exists_cons_of_ne_nil (Nat.toDigits_ne_nil (n := n) (b := radix))
  have hc : c.toNat < 128 := by
    obtain ⟨d, hd, rfl⟩ := mem_toDigits hb n (hcs ▸ List.mem_cons_self)
    exact digitChar_lt_128 d (by omega)
  have hfirst : (readChar (strBytes (Nat.toDigits radix n) ++ rest)).map Prod.fst = some c := by
    rw [hcs, readChar_strBytes_cons hc]
    rfl
  -- a leading `0` is that of zero, which has one digit
  have hzero : c = '0' → (Nat.toDigits radix n).length ≤ 1 := by
    rintro rfl
    rw [eq_zero_of_toDigits_eq_cons hb hcs, Nat.toDigits_of_lt_base (by omega)]
    simp
  have hpos : (Nat.toDigits radix n).length ≠ 0 := by simp [hcs]
  unfold readNumber
  rw [hfirst, readDigits_toDigits hr n (by simpa using hmax), readDigits_of_noDigitNext hnext]
  simp only [Nat.zero_mul, Nat.zero_add, Option.some.injEq]
  rw [if_neg hpos, if_neg (by rintro ⟨-, hc0, hlen⟩; have := hzero hc0; omega), if_pos hn]

theorem length_toDigits_octet (a : UInt8) : (Nat.toDigits 10 a.toNat).length ≤ 3 :=
  (Nat.length_toDigits_le_iff (by decide) (by decide)).mpr (by have := a.toNat_lt; omega)

theorem length_hexDigits (g : UInt16) : (hexDigits g).length ≤ 4 :=
  (Nat.length_toDigits_le_iff (by decide) (by decide)).mpr (by have := g.toNat_lt; omega)

/-! ## IPv4 -/

theorem readOctet_zero (a : UInt8) {rest : List UInt8} (hnext : NoDigitNext 10 rest) :
    readOctet 0 (strBytes (Nat.toDigits 10 a.toNat) ++ rest) = some (a, rest) := by
  rw [readOctet, readSeparator_zero,
    readNumber_toDigits (Or.inl rfl) (length_toDigits_octet a) (by have := a.toNat_lt; omega) false hnext]
  simp

theorem readOctet_of_pos {i : Nat} (hi : 0 < i) (a : UInt8) {rest : List UInt8}
    (hnext : NoDigitNext 10 rest) :
    readOctet i (strBytes ('.' :: Nat.toDigits 10 a.toNat) ++ rest) = some (a, rest) := by
  obtain ⟨i, rfl⟩ := Nat.exists_eq_add_one_of_ne_zero (Nat.pos_iff_ne_zero.mp hi)
  rw [readOctet, readSeparator_succ, readGivenChar_strBytes_cons (by decide), Option.bind_some]
  exact readOctet_zero a hnext

/-- **An IPv4 address is read back from what it prints.** -/
theorem readIpv4Addr_toString (ip : Ipv4Addr) : readIpv4Addr (strBytes ip.toString) = some (ip, []) := by
  have hdot : ∀ cs rest, NoDigitNext 10 (strBytes ('.' :: cs) ++ rest) :=
    noDigitNext_strBytes_cons (by decide) (by decide)
  have htext : strBytes ip.toString = strBytes (Nat.toDigits 10 ip.a.toNat) ++
      (strBytes ('.' :: Nat.toDigits 10 ip.b.toNat) ++ (strBytes ('.' :: Nat.toDigits 10 ip.c.toNat) ++
        (strBytes ('.' :: Nat.toDigits 10 ip.d.toNat) ++ []))) := by
    simp only [Ipv4Addr.toString, strBytes_append, strBytes_cons, List.append_assoc, List.append_nil]
  rw [htext]
  simp only [readIpv4Addr, Option.bind_eq_bind, Option.bind_some, readOctet_zero _ (hdot _ _),
    readOctet_of_pos (i := 1) Nat.one_pos _ (hdot _ _), readOctet_of_pos (i := 2) Nat.two_pos _ (hdot _ _),
    readOctet_of_pos (i := 3) (by decide) _ (noDigitNext_nil 10)]
  rfl

/-! ## What is not an address -/

theorem isSuffix_of_readDigits {radix maxDigits result digitCount r c : Nat} {s rest : List UInt8}
    (h : readDigits radix maxDigits result digitCount s = some (r, c, rest)) : rest <:+ s := by
  induction s generalizing result digitCount with
  | nil =>
    cases h
    exact List.suffix_refl _
  | cons b bs ih =>
    unfold readDigits at h
    split at h
    · cases h
      exact List.suffix_refl _
    · split at h
      · cases h
      · exact (ih h).trans (List.suffix_cons b bs)

theorem isSuffix_of_readNumber {radix maxDigits bound n : Nat} {allowZeroPrefix : Bool}
    {s rest : List UInt8} (h : readNumber radix maxDigits allowZeroPrefix bound s = some (n, rest)) :
    rest <:+ s := by
  unfold readNumber at h
  split at h
  · cases h
  · rename_i hd
    dsimp only at h
    split_ifs at h
    cases h
    exact isSuffix_of_readDigits hd

theorem readGivenChar_of_not_mem {c : Char} {s : List UInt8} (h : c ∉ latin1 s) :
    readGivenChar c s = none := by
  cases s with
  | nil => rfl
  | cons b bs =>
    have hb : latin1Char b ≠ c := fun hb => h (hb ▸ List.mem_cons_self)
    simp [readGivenChar, readChar, hb]

theorem eq_cons_of_readGivenChar {c : Char} {s rest : List UInt8} (h : readGivenChar c s = some rest) :
    ∃ b, s = b :: rest := by
  cases s with
  | nil => cases h
  | cons b bs =>
    simp only [readGivenChar, readChar] at h
    split_ifs at h
    cases h
    exact ⟨b, rfl⟩

theorem not_mem_latin1_of_isSuffix {c : Char} {s rest : List UInt8} (hs : c ∉ latin1 s)
    (hrest : rest <:+ s) : c ∉ latin1 rest :=
  fun hc => hs ((hrest.sublist.map latin1Char).subset hc)

/-- A reader that finds nothing here nor one byte further finds nothing behind a separator
either. -/
theorem readSeparator_eq_none {α : Type} {sep : Char} {i : Nat}
    {inner : List UInt8 → Option (α × List UInt8)} {s : List UInt8} (h0 : inner s = none)
    (h1 : ∀ b rest, s = b :: rest → inner rest = none) : readSeparator sep i inner s = none := by
  unfold readSeparator
  split
  · cases hsep : readGivenChar sep s with
    | none => rfl
    | some rest =>
      obtain ⟨b, hs⟩ := eq_cons_of_readGivenChar hsep
      exact h1 b rest hs
  · exact h0

theorem readIpv4Addr_of_noDigitNext {s : List UInt8} (h : NoDigitNext 10 s) :
    readIpv4Addr s = none := by
  simp [readIpv4Addr, readOctet, readNumber_of_noDigitNext h]

/-- Text without a `.` holds no IPv4 address. -/
theorem readIpv4Addr_of_not_mem {s : List UInt8} (h : '.' ∉ latin1 s) : readIpv4Addr s = none := by
  unfold readIpv4Addr
  cases h0 : readOctet 0 s with
  | none => rfl
  | some r =>
    -- the first octet is followed by no `.`
    obtain ⟨a, rest⟩ := r
    have hsuf : rest <:+ s := by
      simp only [readOctet, readSeparator_zero, Option.map_eq_some_iff] at h0
      obtain ⟨⟨n, rest'⟩, hn, hr⟩ := h0
      cases hr
      exact isSuffix_of_readNumber hn
    have h1 : readOctet 1 rest = none := by
      rw [readOctet, readSeparator_succ, readGivenChar_of_not_mem (not_mem_latin1_of_isSuffix h hsuf)]
      rfl
    simp [h1]

theorem readSeparator_readIpv4Addr_of_not_mem {i : Nat} {s : List UInt8} (h : '.' ∉ latin1 s) :
    readSeparator ':' i readIpv4Addr s = none := by
  refine readSeparator_eq_none (readIpv4Addr_of_not_mem h) fun b rest hs => ?_
  subst hs
  exact readIpv4Addr_of_not_mem fun hc => h (List.mem_cons_of_mem _ hc)

/-! ## Groups -/

/-- Text of hexadecimal digits and colons, as an IPv6 address prints outside the IPv4-mapped
form. -/
def IsHexText (cs : List Char) : Prop :=
  ∀ c ∈ cs, c = ':' ∨ ∃ d < 16, c = Nat.digitChar d

theorem IsHexText.isAsciiText {cs : List Char} (h : IsHexText cs) : IsAsciiText cs := by
  intro c hc
  rcases h c hc with rfl | ⟨d, hd, rfl⟩
  · decide
  · exact digitChar_lt_128 d hd

theorem IsHexText.dot_not_mem {cs : List Char} (h : IsHexText cs) : '.' ∉ cs := by
  intro hc
  rcases h '.' hc with hc | ⟨d, hd, hc⟩
  · cases hc
  · revert hc
    revert d
    decide

theorem IsHexText.append {cs ds : List Char} (hc : IsHexText cs) (hd : IsHexText ds) :
    IsHexText (cs ++ ds) := by
  intro c h
  rcases List.mem_append.mp h with h | h
  exacts [hc c h, hd c h]

theorem IsHexText.cons_colon {cs : List Char} (h : IsHexText cs) : IsHexText (':' :: cs) := by
  intro c hc
  rcases List.mem_cons.mp hc with rfl | hc
  exacts [.inl rfl, h c hc]

theorem isHexText_hexDigits (g : UInt16) : IsHexText (hexDigits g) :=
  fun _ hc => .inr (mem_toDigits (by decide) _ hc)

theorem isHexText_sepGroups (gs : List UInt16) : IsHexText (gs.flatMap fun g => ':' :: hexDigits g) := by
  intro c hc
  obtain ⟨g, -, hc⟩ := List.mem_flatMap.mp hc
  rcases List.mem_cons.mp hc with rfl | hc
  · exact .inl rfl
  · exact isHexText_hexDigits g c hc

theorem isHexText_fmtSubslice (gs : List UInt16) : IsHexText (fmtSubslice gs) := by
  cases gs with
  | nil => exact fun _ hc => absurd hc List.not_mem_nil
  | cons g gs => exact (isHexText_hexDigits g).append (isHexText_sepGroups gs)

theorem dot_not_mem_latin1 {cs : List Char} (hcs : IsHexText cs) {rest : List UInt8}
    (hrest : '.' ∉ latin1 rest) : '.' ∉ latin1 (strBytes cs ++ rest) := by
  rw [latin1_append, latin1_strBytes hcs.isAsciiText, List.mem_append, not_or]
  exact ⟨hcs.dot_not_mem, hrest⟩

theorem noDigitNext_colon {radix : Nat} (hr : radix = 10 ∨ radix = 16) (cs : List Char)
    (rest : List UInt8) : NoDigitNext radix (strBytes (':' :: cs) ++ rest) :=
  noDigitNext_strBytes_cons (by decide) (by rcases hr with rfl | rfl <;> decide) cs rest

theorem noDigitNext_strBytes_colon {radix : Nat} (hr : radix = 10 ∨ radix = 16) (cs : List Char) :
    NoDigitNext radix (strBytes (':' :: cs)) := by
  simpa using noDigitNext_colon hr cs []

/-- What may follow the groups of an address: no `.`, no digit, and no further group. -/
structure GroupsEnd (rest : List UInt8) : Prop where
  dot_not_mem : '.' ∉ latin1 rest
  noDigitNext : NoDigitNext 16 rest
  readGroups_eq : ∀ i slots, readGroups i slots rest = ([], false, rest)

theorem readGroup_zero (g : UInt16) {rest : List UInt8} (hnext : NoDigitNext 16 rest) :
    readGroup 0 (strBytes (hexDigits g) ++ rest) = some (g, rest) := by
  rw [readGroup, readSeparator_zero, hexDigits, readNumber_toDigits (Or.inr rfl) (length_hexDigits g)
    (by have := g.toNat_lt; omega) true hnext]
  simp

theorem readGroup_succ (i : Nat) (g : UInt16) {rest : List UInt8} (hnext : NoDigitNext 16 rest) :
    readGroup (i + 1) (strBytes (':' :: hexDigits g) ++ rest) = some (g, rest) := by
  rw [readGroup, readSeparator_succ, readGivenChar_strBytes_cons (by decide), Option.bind_some]
  exact readGroup_zero g hnext

/-- Where no IPv4 address is, a group read is followed by those from the next slot. -/
theorem readGroups_of_readGroup {i slots : Nat} {s rest : List UInt8} {g : UInt16}
    (hv4 : readSeparator ':' i readIpv4Addr s = none) (hg : readGroup i s = some (g, rest)) :
    readGroups i (slots + 1) s =
      (g :: (readGroups (i + 1) slots rest).1, (readGroups (i + 1) slots rest).2) := by
  rw [readGroups]
  simp only [hv4, ite_self, hg]

/-- Where neither an IPv4 address nor a group can be read, the groups end. -/
theorem readGroups_of_none {i slots : Nat} {s : List UInt8}
    (hv4 : readSeparator ':' i readIpv4Addr s = none) (hg : readGroup i s = none) :
    readGroups i slots s = ([], false, s) := by
  cases slots with
  | zero => rfl
  | succ slots =>
    rw [readGroups]
    simp only [hv4, ite_self, hg]

theorem groupsEnd_nil : GroupsEnd [] where
  dot_not_mem := List.not_mem_nil
  noDigitNext := trivial
  readGroups_eq _ _ := readGroups_of_none
    (readSeparator_eq_none (readIpv4Addr_of_noDigitNext trivial) fun _ _ h => nomatch h)
    (readSeparator_eq_none (by simp [readNumber_of_noDigitNext]) fun _ _ h => nomatch h)

/-- No group and no IPv4 address starts at a `::`. -/
theorem readGroups_doubleColon (i slots : Nat) (cs : List Char) :
    readGroups i slots (strBytes (':' :: ':' :: cs)) = ([], false, strBytes (':' :: ':' :: cs)) := by
  have htail : ∀ b rest, strBytes (':' :: ':' :: cs) = b :: rest → rest = strBytes (':' :: cs) := by
    intro b rest h
    rw [strBytes_cons_of_lt (by decide), List.cons.injEq] at h
    exact h.2.symm
  have hnum : ∀ cs, (readNumber 16 4 true 65536 (strBytes (':' :: cs))).map
      (fun r => (UInt16.ofNat r.1, r.2)) = none := fun cs =>
    Option.map_eq_none_iff.mpr (readNumber_of_noDigitNext (noDigitNext_strBytes_colon (Or.inr rfl) _))
  refine readGroups_of_none (readSeparator_eq_none ?_ ?_) (readSeparator_eq_none (hnum _) ?_)
  · exact readIpv4Addr_of_noDigitNext (noDigitNext_strBytes_colon (Or.inl rfl) _)
  · intro b rest h
    rw [htail b rest h]
    exact readIpv4Addr_of_noDigitNext (noDigitNext_strBytes_colon (Or.inl rfl) _)
  · intro b rest h
    rw [htail b rest h]
    exact hnum cs

/-- The `::` of a compressed address ends the groups before it. -/
theorem groupsEnd_doubleColon {cs : List Char} (hcs : IsHexText cs) :
    GroupsEnd (strBytes (':' :: ':' :: cs)) where
  dot_not_mem := by
    have hhex : IsHexText (':' :: ':' :: cs) := hcs.cons_colon.cons_colon
    rw [latin1_strBytes hhex.isAsciiText]
    exact hhex.dot_not_mem
  noDigitNext := noDigitNext_strBytes_colon (Or.inr rfl) _
  readGroups_eq i slots := readGroups_doubleColon i slots cs

/-- The groups after the first, each behind a `:`, are read back up to what follows them. -/
theorem readGroups_sepGroups (gs : List UInt16) (i slots : Nat) {rest : List UInt8}
    (hslots : gs.length ≤ slots) (hrest : GroupsEnd rest) :
    readGroups (i + 1) slots (strBytes (gs.flatMap fun g => ':' :: hexDigits g) ++ rest) =
      (gs, false, rest) := by
  induction gs generalizing i slots with
  | nil => exact hrest.readGroups_eq _ _
  | cons g gs ih =>
    obtain ⟨slots, rfl⟩ : ∃ k, slots = k + 1 := ⟨slots - 1, by simp at hslots; omega⟩
    have hv4 := readSeparator_readIpv4Addr_of_not_mem (i := i + 1)
      (dot_not_mem_latin1 (isHexText_sepGroups (g :: gs)) hrest.dot_not_mem)
    have hnext : NoDigitNext 16 (strBytes (gs.flatMap fun g => ':' :: hexDigits g) ++ rest) := by
      cases gs with
      | nil => exact hrest.noDigitNext
      | cons g' gs => exact noDigitNext_colon (Or.inr rfl) _ _
    rw [List.flatMap_cons, strBytes_append, List.append_assoc] at hv4 ⊢
    rw [readGroups_of_readGroup hv4 (readGroup_succ i g hnext),
      ih (i + 1) slots (by simpa using hslots)]

/-- **The groups `fmt_subslice` prints are read back** up to what follows them. -/
theorem readGroups_fmtSubslice (gs : List UInt16) (slots : Nat) {rest : List UInt8}
    (hslots : gs.length ≤ slots) (hrest : GroupsEnd rest) :
    readGroups 0 slots (strBytes (fmtSubslice gs) ++ rest) = (gs, false, rest) := by
  cases gs with
  | nil => exact hrest.readGroups_eq _ _
  | cons g gs =>
    obtain ⟨slots, rfl⟩ : ∃ k, slots = k + 1 := ⟨slots - 1, by simp at hslots; omega⟩
    have hv4 := readSeparator_readIpv4Addr_of_not_mem (i := 0)
      (dot_not_mem_latin1 (isHexText_fmtSubslice (g :: gs)) hrest.dot_not_mem)
    have hnext : NoDigitNext 16 (strBytes (gs.flatMap fun g => ':' :: hexDigits g) ++ rest) := by
      cases gs with
      | nil => exact hrest.noDigitNext
      | cons g' gs => exact noDigitNext_colon (Or.inr rfl) _ _
    rw [fmtSubslice, strBytes_append, List.append_assoc] at hv4 ⊢
    rw [readGroups_of_readGroup hv4 (readGroup_zero g hnext),
      readGroups_sepGroups gs 0 slots (by simpa using hslots) hrest]

/-- An IPv4 address read in a slot with another after it fills both. -/
theorem readGroups_of_readIpv4Addr {i slots : Nat} {s rest : List UInt8} {ip : Ipv4Addr}
    (hslots : 0 < slots) (hv4 : readSeparator ':' i readIpv4Addr s = some (ip, rest)) :
    readGroups i (slots + 1) s = ([fromBeBytes ip.a ip.b, fromBeBytes ip.c ip.d], true, rest) := by
  rw [readGroups, if_pos hslots, hv4]

/-! ## The longest run of zeros -/

/-- `sp` is a run of zero segments of `segments`. -/
def ZeroRun (segments : List UInt16) (sp : Span) : Prop :=
  ∃ pre post, segments = pre ++ List.replicate sp.len 0 ++ post ∧ pre.length = sp.start

theorem zeroRun_empty (segments : List UInt16) : ZeroRun segments ⟨0, 0⟩ :=
  ⟨[], segments, by simp, rfl⟩

theorem ZeroRun.eq_take_append {segments : List UInt16} {sp : Span} (h : ZeroRun segments sp) :
    sp.start + sp.len ≤ segments.length ∧
      segments = segments.take sp.start ++ List.replicate sp.len 0 ++
        segments.drop (sp.start + sp.len) := by
  obtain ⟨pre, post, rfl, hpre⟩ := h
  rw [← hpre]
  have htake : (pre ++ List.replicate sp.len 0 ++ post).take pre.length = pre := by
    rw [List.append_assoc, List.take_left' rfl]
  have hdrop : (pre ++ List.replicate sp.len 0 ++ post).drop (pre.length + sp.len) = post :=
    List.drop_left' (by simp)
  refine ⟨by simp only [List.length_append, List.length_replicate]; omega, ?_⟩
  rw [htake, hdrop]

/-- A zero at segment `i` extends the run that ends there, or starts one. -/
theorem zeroRun_extend {full gs : List UInt16} {i : Nat} {current : Span}
    (hsegs : full.drop i = 0 :: gs)
    (hcurrent : current.len = 0 ∨ ZeroRun full current ∧ current.start + current.len = i) :
    ZeroRun full ⟨if current.len = 0 then i else current.start, current.len + 1⟩ ∧
      (if current.len = 0 then i else current.start) + (current.len + 1) = i + 1 := by
  rcases hcurrent with hzero | ⟨⟨pre, post, hfull, hpre⟩, hend⟩
  · have hi : i < full.length := by
      have := congrArg List.length hsegs
      simp at this
      omega
    refine ⟨⟨full.take i, gs, ?_, by simp [hzero]; omega⟩, by simp [hzero]⟩
    simp only [hzero, Nat.zero_add, List.replicate_one]
    rw [List.append_assoc, List.singleton_append, ← hsegs, List.take_append_drop]
  · -- the run so far ends where segment `i` is, and keeps its start
    have hpost : post = 0 :: gs := by
      rw [← hsegs, hfull, List.drop_left' (by simp; omega)]
    have hstart : (if current.len = 0 then i else current.start) = current.start := by
      split_ifs <;> omega
    rw [hstart]
    refine ⟨⟨pre, gs, ?_, hpre⟩, by omega⟩
    rw [hfull, hpost, List.replicate_succ', List.append_assoc, List.append_assoc, List.append_assoc,
      List.singleton_append]

/-- The loop keeps its longest run a run of zeros, and its current run one that ends before
segment `i`. -/
theorem zeroRun_zeroSpans {full : List UInt16} (i : Nat) (longest current : Span)
    (segs : List UInt16) (hsegs : full.drop i = segs) (hlongest : ZeroRun full longest)
    (hcurrent : current.len = 0 ∨ ZeroRun full current ∧ current.start + current.len = i) :
    ZeroRun full (zeroSpans i longest current segs) := by
  induction segs generalizing i longest current with
  | nil => exact hlongest
  | cons g gs ih =>
    have hdrop : full.drop (i + 1) = gs := by
      rw [← List.tail_drop, hsegs, List.tail_cons]
    unfold zeroSpans
    by_cases hg : g = 0
    · subst hg
      rw [if_pos (rfl : (0 : UInt16) = 0)]
      obtain ⟨hrun, hend⟩ := zeroRun_extend hsegs hcurrent
      -- the longest run is the grown one or stays
      have hmax : ∀ c : Span, ZeroRun full c →
          ZeroRun full (if c.len > longest.len then c else longest) := fun c hc => by
        split
        exacts [hc, hlongest]
      exact ih (i + 1) _ _ hdrop (hmax _ hrun) (.inr ⟨hrun, hend⟩)
    · rw [if_neg hg]
      exact ih (i + 1) longest ⟨0, 0⟩ hdrop hlongest (.inl rfl)

theorem zeroRun_longestZeroSpan (segments : List UInt16) :
    ZeroRun segments (longestZeroSpan segments) :=
  zeroRun_zeroSpans 0 _ _ segments (List.drop_zero) (zeroRun_empty _) (.inl rfl)

/-! ## IPv6 -/

/-- `u16::from_be_bytes` of the two bytes of a segment is the segment. -/
theorem fromBeBytes_shiftRight (g : UInt16) : fromBeBytes (g >>> 8).toUInt8 g.toUInt8 = g := by
  apply UInt16.toNat_inj.mp
  have hg := g.toNat_lt
  simp only [fromBeBytes, UInt16.toNat_add, UInt16.toNat_mul, UInt8.toNat_toUInt16,
    UInt16.toNat_toUInt8, UInt16.toNat_shiftRight, Nat.shiftRight_eq_div_pow]
  simp
  omega

theorem segments_of_toIpv4Mapped {ip : Ipv6Addr} {v4 : Ipv4Addr} (h : ip.toIpv4Mapped = some v4) :
    ∃ ab cd, ip.segments = [0, 0, 0, 0, 0, 0xffff, ab, cd] ∧
      v4 = ⟨(ab >>> 8).toUInt8, ab.toUInt8, (cd >>> 8).toUInt8, cd.toUInt8⟩ := by
  unfold Ipv6Addr.toIpv4Mapped at h
  split at h
  · rename_i ab cd hsegments
    cases h
    exact ⟨ab, cd, hsegments, rfl⟩
  · cases h

/-- Eight groups, printed without `::`, are read back. -/
theorem readIpv6Addr_fmtSubslice (ip : Ipv6Addr) :
    readIpv6Addr (strBytes (fmtSubslice ip.segments)) = some (ip, []) := by
  have hhead : readGroups 0 8 (strBytes (fmtSubslice ip.segments)) = (ip.segments, false, []) := by
    simpa using readGroups_fmtSubslice ip.segments 8 ip.length_segments.le groupsEnd_nil
  unfold readIpv6Addr
  simp only [hhead, ip.length_segments, ↓reduceDIte]

/-- An address printed with a run of zeros as `::` is read back: the groups before it, then
those after it, with the run's zeros between them. -/
theorem readIpv6Addr_compressed (ip : Ipv6Addr) {sp : Span} (hrun : ZeroRun ip.segments sp)
    (hlen : 1 < sp.len) :
    readIpv6Addr (strBytes (fmtSubslice (ip.segments.take sp.start) ++ "::".toList ++
      fmtSubslice (ip.segments.drop (sp.start + sp.len)))) = some (ip, []) := by
  obtain ⟨hle, hsegments⟩ := hrun.eq_take_append
  rw [ip.length_segments] at hle
  have hfront : (ip.segments.take sp.start).length = sp.start := by
    rw [List.length_take, ip.length_segments]
    omega
  have hback : (ip.segments.drop (sp.start + sp.len)).length = 8 - (sp.start + sp.len) := by
    rw [List.length_drop, ip.length_segments]
  have htext : strBytes (fmtSubslice (ip.segments.take sp.start) ++ "::".toList ++
      fmtSubslice (ip.segments.drop (sp.start + sp.len))) =
      strBytes (fmtSubslice (ip.segments.take sp.start)) ++
        strBytes (':' :: ':' :: fmtSubslice (ip.segments.drop (sp.start + sp.len))) := by
    rw [List.append_assoc, strBytes_append]
    rfl
  -- the groups before the `::`, then those after it
  have hhead := readGroups_fmtSubslice (ip.segments.take sp.start) 8 (by omega)
    (groupsEnd_doubleColon (isHexText_fmtSubslice (ip.segments.drop (sp.start + sp.len))))
  have htail : readGroups 0 (8 - (sp.start + 1))
      (strBytes (fmtSubslice (ip.segments.drop (sp.start + sp.len)))) =
        (ip.segments.drop (sp.start + sp.len), false, []) := by
    simpa using readGroups_fmtSubslice (ip.segments.drop (sp.start + sp.len))
      (8 - (sp.start + 1)) (by omega) groupsEnd_nil
  rw [strBytes_cons_of_lt (by decide), strBytes_cons_of_lt (by decide)] at hhead
  have hcount : 8 - sp.start - (8 - (sp.start + sp.len)) = sp.len := by omega
  unfold readIpv6Addr
  simp only [htext, strBytes_cons_of_lt (show (':' : Char).toNat < 128 by decide), hhead, hfront,
    show sp.start ≠ 8 by omega, ↓reduceDIte, Bool.false_eq_true, ↓reduceIte, readGivenChar_toUInt8
    (show (':' : Char).toNat < 128 by decide), htail, hback, hcount, Option.some.injEq]
  exact Prod.ext (Ipv6Addr.ext hsegments.symm) rfl

/-- An IPv4-mapped address is read as `::`, the group `ffff` and an IPv4 address in the last two
slots. -/
theorem readIpv6Addr_mapped (v4 : Ipv4Addr) :
    readIpv6Addr (strBytes ("::ffff:".toList ++ v4.toString)) =
      some (⟨[0, 0, 0, 0, 0, 0xffff, fromBeBytes v4.a v4.b, fromBeBytes v4.c v4.d], rfl⟩, []) := by
  have hcolon : (':' : Char).toNat < 128 := by decide
  have htext : strBytes ("::ffff:".toList ++ v4.toString) =
      strBytes (':' :: ':' :: (hexDigits 0xffff ++ ':' :: v4.toString)) := by
    rfl
  have hhead := readGroups_doubleColon 0 8 (hexDigits 0xffff ++ ':' :: v4.toString)
  -- no IPv4 address starts at `ffff`, which is one group
  have hf : readSeparator ':' 0 readIpv4Addr
      (strBytes (hexDigits 0xffff) ++ strBytes (':' :: v4.toString)) = none :=
    readIpv4Addr_of_noDigitNext (noDigitNext_strBytes_cons (c := 'f') (by decide) (by decide) _ _)
  have hffff := readGroup_zero 0xffff (noDigitNext_strBytes_colon (Or.inr rfl) v4.toString)
  -- then the IPv4 address
  have hv4 : readSeparator ':' 1 readIpv4Addr (strBytes (':' :: v4.toString)) = some (v4, []) := by
    rw [readSeparator_succ, strBytes_cons_of_lt hcolon, readGivenChar_toUInt8 hcolon, Option.bind_some,
      readIpv4Addr_toString]
  have htail : readGroups 0 7 (strBytes (hexDigits 0xffff ++ ':' :: v4.toString)) =
      ([0xffff, fromBeBytes v4.a v4.b, fromBeBytes v4.c v4.d], true, []) := by
    rw [strBytes_append, readGroups_of_readGroup hf hffff, readGroups_of_readIpv4Addr (by decide) hv4]
  rw [strBytes_cons_of_lt hcolon, strBytes_cons_of_lt hcolon] at hhead
  unfold readIpv6Addr
  simp only [htext, strBytes_cons_of_lt hcolon, hhead, List.length_nil, OfNat.zero_ne_ofNat,
    ↓reduceDIte, Bool.false_eq_true, ↓reduceIte, readGivenChar_toUInt8 hcolon, htail]
  rfl

theorem isHexText_toString {ip : Ipv6Addr} (h : ip.toIpv4Mapped = none) : IsHexText ip.toString := by
  unfold Ipv6Addr.toString
  rw [h]
  dsimp only
  split_ifs
  · have hcolons : IsHexText [':', ':'] := (isHexText_fmtSubslice []).cons_colon.cons_colon
    exact ((isHexText_fmtSubslice _).append hcolons).append (isHexText_fmtSubslice _)
  · exact isHexText_fmtSubslice _

/-- What an IPv6 address prints holds no IPv4 address: it starts with `::` or has no `.`. -/
theorem readIpv4Addr_v6 (ip : Ipv6Addr) : readIpv4Addr (strBytes ip.toString) = none := by
  cases hmapped : ip.toIpv4Mapped with
  | some v4 =>
    have htext : ip.toString = ':' :: ':' :: ("ffff:".toList ++ v4.toString) := by
      rw [Ipv6Addr.toString, hmapped]
      rfl
    rw [htext]
    exact readIpv4Addr_of_noDigitNext (noDigitNext_strBytes_colon (Or.inl rfl) _)
  | none =>
    have hhex := isHexText_toString hmapped
    apply readIpv4Addr_of_not_mem
    rw [latin1_strBytes hhex.isAsciiText]
    exact hhex.dot_not_mem

/-- **An IPv6 address is read back from what it prints**, in each of its three forms. -/
theorem readIpv6Addr_toString (ip : Ipv6Addr) : readIpv6Addr (strBytes ip.toString) = some (ip, []) := by
  unfold Ipv6Addr.toString
  cases hmapped : ip.toIpv4Mapped with
  | some v4 =>
    obtain ⟨ab, cd, hsegments, rfl⟩ := segments_of_toIpv4Mapped hmapped
    dsimp only
    rw [readIpv6Addr_mapped, fromBeBytes_shiftRight, fromBeBytes_shiftRight]
    exact congrArg some (Prod.ext (Ipv6Addr.ext hsegments.symm) rfl)
  | none =>
    dsimp only
    split_ifs with hlen
    · exact readIpv6Addr_compressed ip (zeroRun_longestZeroSpan _) hlen
    · exact readIpv6Addr_fmtSubslice ip

/-! ## The round trip -/

theorem utf8Bytes_ofList (cs : List Char) : utf8Bytes (String.ofList cs) = strBytes cs := by
  rw [utf8Bytes, String.toList_ofList]
  rfl

/-- **Every address is read back from the text it prints.** -/
theorem fromStr_toString (ip : IpAddr) : IpAddr.fromStr ip.toString = some ip := by
  cases ip with
  | v4 ip =>
    simp only [IpAddr.fromStr, IpAddr.toString, utf8Bytes_ofList, readIpAddr, readIpv4Addr_toString]
  | v6 ip =>
    simp only [IpAddr.fromStr, IpAddr.toString, utf8Bytes_ofList, readIpAddr, readIpv4Addr_v6,
      readIpv6Addr_toString, Option.map_some]

theorem isAsciiText_toDigits (n : Nat) : IsAsciiText (Nat.toDigits 10 n) := by
  intro c hc
  obtain ⟨d, hd, rfl⟩ := mem_toDigits (by decide) n hc
  exact digitChar_lt_128 d (by omega)

theorem isAsciiText_ipv4 (ip : Ipv4Addr) : IsAsciiText ip.toString := by
  intro c hc
  simp only [Ipv4Addr.toString, List.mem_append, List.mem_cons] at hc
  rcases hc with ((hc | rfl | hc) | rfl | hc) | rfl | hc
  all_goals first | decide | exact isAsciiText_toDigits _ c hc

theorem isAsciiText_ipv6 (ip : Ipv6Addr) : IsAsciiText ip.toString := by
  cases hmapped : ip.toIpv4Mapped with
  | some v4 =>
    rw [Ipv6Addr.toString, hmapped]
    intro c hc
    rcases List.mem_append.mp hc with hc | hc
    · -- the prefix `::ffff:`
      replace hc : c ∈ [':', ':', 'f', 'f', 'f', 'f', ':'] := hc
      simp only [List.mem_cons, List.not_mem_nil, or_false] at hc
      rcases hc with rfl | rfl | rfl | rfl | rfl | rfl | rfl <;> decide
    · exact isAsciiText_ipv4 v4 c hc
  | none => exact (isHexText_toString hmapped).isAsciiText

theorem length_sepGroups (gs : List UInt16) :
    (gs.flatMap fun g => ':' :: hexDigits g).length ≤ 5 * gs.length := by
  induction gs with
  | nil => simp
  | cons g gs ih =>
    have := length_hexDigits g
    simp only [List.flatMap_cons, List.length_append, List.length_cons]
    omega

theorem length_fmtSubslice (gs : List UInt16) : (fmtSubslice gs).length ≤ 5 * gs.length - 1 := by
  cases gs with
  | nil => simp [fmtSubslice]
  | cons g gs =>
    have := length_hexDigits g
    have := length_sepGroups gs
    simp only [fmtSubslice, List.length_append, List.length_cons]
    omega

theorem length_ipv4_toString (ip : Ipv4Addr) : ip.toString.length ≤ 15 := by
  have := length_toDigits_octet ip.a
  have := length_toDigits_octet ip.b
  have := length_toDigits_octet ip.c
  have := length_toDigits_octet ip.d
  simp only [Ipv4Addr.toString, List.length_append, List.length_cons]
  omega

theorem length_ipv6_toString (ip : Ipv6Addr) : ip.toString.length ≤ 39 := by
  unfold Ipv6Addr.toString
  cases hmapped : ip.toIpv4Mapped with
  | some v4 =>
    have := length_ipv4_toString v4
    simp only [List.length_append]
    have : "::ffff:".toList.length = 7 := rfl
    omega
  | none =>
    dsimp only
    have h8 := ip.length_segments
    have hfull := length_fmtSubslice ip.segments
    split_ifs with hlen
    · -- the groups on either side of `::` are fewer than eight
      obtain ⟨hle, -⟩ := (zeroRun_longestZeroSpan ip.segments).eq_take_append
      have hfront := length_fmtSubslice (ip.segments.take (longestZeroSpan ip.segments).start)
      have hback := length_fmtSubslice
        (ip.segments.drop ((longestZeroSpan ip.segments).start + (longestZeroSpan ip.segments).len))
      simp only [List.length_take, List.length_drop, h8] at hfront hback hle
      simp only [List.length_append]
      have : "::".toList.length = 2 := rfl
      omega
    · omega

/-- What an address prints is at most 39 bytes, the length of eight groups of four digits. -/
theorem length_utf8Bytes_toString (ip : IpAddr) : (utf8Bytes ip.toString).length ≤ 39 := by
  cases ip with
  | v4 ip =>
    rw [IpAddr.toString, utf8Bytes_ofList, length_strBytes, byteLen_of_ascii (isAsciiText_ipv4 ip)]
    exact (length_ipv4_toString ip).trans (by decide)
  | v6 ip =>
    rw [IpAddr.toString, utf8Bytes_ofList, length_strBytes, byteLen_of_ascii (isAsciiText_ipv6 ip)]
    exact length_ipv6_toString ip

end Net
