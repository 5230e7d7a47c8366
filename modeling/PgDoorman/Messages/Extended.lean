import PgDoorman.Basic
import PgDoorman.Wire.Utf8
import PgDoorman.Messages.Parse

/-!
# Parse and Bind frames

`src/messages/extended.rs` decodes a client's Parse with `TryFrom<&BytesMut> for Parse`, reads
its statement name with `Parse::get_name`, and writes it back to a server with
`Parse::to_bytes_with_name`. Bind frames are renamed in place by `Bind::rename`.

The decoders read through a `std::io::Cursor` with `bytes::Buf`, whose reads past the end
panic (`none` below), and `read_string`, which rebuilds a C string with
`String::from_utf8_lossy`. So a Parse frame decodes to its name and query as UTF-8 text, with
each ill-formed byte sequence replaced, and its parameter count as an `i16`: a count of 32768
or more is negative, and no parameter type is read. Arithmetic on lengths wraps, as in a
release build.

## Main definitions

* `readString`: `BytesMutReader::read_string` on a cursor
* `ParseMessage.tryFrom`, `Parse.getName`, `ParseMessage.toBytesWithName`
* `parseFrame`: a Parse frame as a client writes it
* `BindMessage.tryFrom`, `Bind.getName`, `Bind.rename`
* `bindFrame`: a Bind frame as a client writes it

## Main results

* `tryFrom_parseFrame`: what a well-formed Parse frame decodes to
* `parse_reencode_iff`: re-encoding a decoded frame under its own name gives the frame back
  exactly when its name and query are UTF-8 and it has fewer than 32768 parameter types
* `parse_frames_decode_alike`: two frames whose queries are the ill-formed bytes `FE` and `FF`
  decode alike, and neither is written back as it came
* `rename_bindFrame`, `bind_rename_renames`: a renamed Bind is the frame with the new name, and
  decodes as the original did
* `bind_rename_length_wraps`: a name of `2 ^ 31` bytes wraps the patched length field
-/

namespace PgDoorman.Messages

open Wire

/-! ## Reading a cursor -/

/-- `Buf::get_u8`. -/
def getU8 : List UInt8 → Option (UInt8 × List UInt8)
  | [] => none
  | b :: bs => some (b, bs)

/-- `get_i16`, `get_i32`, `get_u16` ...: the next `w` bytes, big-endian, as their bit pattern. -/
def getBe (w : Nat) (bs : List UInt8) : Option (Nat × List UInt8) :=
  if w ≤ bs.length then some (readBe (bs.take w), bs.drop w) else none

/-- `read_string` on a cursor: `read_until(b'\0')` takes the bytes through the first NUL, or all
that remain, and `buf[..buf.len() - 1]` drops the last byte taken, which panics when none was. -/
def readString (bs : List UInt8) : Option (String × List UInt8) :=
  match bs.span (· != 0) with
  | (s, _ :: rest) => some (String.ofList (utf8Lossy s), rest)
  | (s, []) => if s = [] then none else some (String.ofList (utf8Lossy s.dropLast), [])

/-- `n` reads of an `i32`. -/
def getI32s : Nat → List UInt8 → Option (List UInt32 × List UInt8)
  | 0, bs => some ([], bs)
  | n + 1, bs => do
    let (t, bs) ← getBe 4 bs
    let (ts, bs) ← getI32s n bs
    pure (UInt32.ofNat t :: ts, bs)

/-- The iterations of `for _ in 0..n` over an `i16` held as its bit pattern: none when it is
negative. -/
def i16Count (n : UInt16) : Nat :=
  if n.toNat < 0x8000 then n.toNat else 0

/-- `n as usize` for an `i16` held as its bit pattern: sign-extended to 64 bits. -/
def i16AsUsize (n : UInt16) : Nat :=
  if n.toNat < 0x8000 then n.toNat else 2 ^ 64 - 0x10000 + n.toNat

theorem i16Count_ofNat {k : Nat} (hk : k < 2 ^ 16) :
    i16Count (UInt16.ofNat k) = if k < 2 ^ 15 then k else 0 := by
  simp only [i16Count, UInt16.toNat_ofNat', Nat.mod_eq_of_lt hk]
  rfl

theorem i16AsUsize_ofNat {k : Nat} (hk : k < 2 ^ 15) : i16AsUsize (UInt16.ofNat k) = k := by
  simp only [i16AsUsize, UInt16.toNat_ofNat', Nat.mod_eq_of_lt (show k < 2 ^ 16 by omega)]
  exact if_pos hk

/-- `CString::new(s)` then `as_bytes_with_nul`: the bytes of `s` and a NUL, or the `NulError`
at its first zero byte, as `From<NulError> for Error` turns it into a `QueryError`. -/
def cString (s : String) : Except Error (List UInt8) :=
  match (utf8Bytes s).idxOf? 0 with
  | some i => .error (.queryError ("nul byte found in provided data at position: " ++ toString i))
  | none => .ok (utf8Bytes s ++ [0])

theorem cString_of_not_mem {s : String} (h : (0 : UInt8) ∉ utf8Bytes s) :
    cString s = .ok (utf8Bytes s ++ [0]) := by
  rw [cString, List.idxOf?_eq_none_iff.mpr h]

theorem cString_of_mem {s : String} (h : (0 : UInt8) ∈ utf8Bytes s) :
    ∃ e, cString s = .error e := by
  unfold cString
  cases hi : (utf8Bytes s).idxOf? 0 with
  | none => exact absurd h (List.idxOf?_eq_none_iff.mp hi)
  | some i => exact ⟨_, rfl⟩

/-! ## The Parse codec -/

/-- A `Parse` as `TryFrom<&BytesMut>` builds it: the frame's tag and length field besides the
fields the pool cache keys on. -/
structure ParseMessage where
  code : Char
  len : UInt32
  parse : Parse

/-- `TryFrom<&BytesMut> for Parse`. The `?` on `read_string` never fires on a cursor, whose reads
do not fail; `none` is a panic. -/
def ParseMessage.tryFrom (buf : List UInt8) : Option ParseMessage := do
  let (code, bs) ← getU8 buf
  let (len, bs) ← getBe 4 bs
  let (name, bs) ← readString bs
  let (query, bs) ← readString bs
  let (numParams, bs) ← getBe 2 bs
  let (paramTypes, _) ← getI32s (i16Count (UInt16.ofNat numParams)) bs
  pure ⟨latin1Char code, UInt32.ofNat len, ⟨name, query, UInt16.ofNat numParams, paramTypes⟩⟩

/-- `Parse::get_name`: `advance` past the tag and the length, which panics on a shorter
buffer, then `read_string`. -/
def Parse.getName (buf : List UInt8) : Option String :=
  if 5 ≤ buf.length then (readString (buf.drop 5)).map Prod.fst else none

/-- `Parse::to_bytes_with_name`. The length is computed in wrapping `usize` arithmetic, of which
`len as i32` keeps the low 32 bits, as `beBytes 4` does; `code as u8` keeps the low byte. -/
def ParseMessage.toBytesWithName (m : ParseMessage) (name : String) :
    Except Error (List UInt8) := do
  let nameBytes ← cString name
  let queryBytes ← cString m.parse.query
  let len := 4 + nameBytes.length + queryBytes.length + 2 + 4 * i16AsUsize m.parse.numParams
  pure (UInt8.ofNat m.code.toNat :: beBytes 4 len ++ nameBytes ++ queryBytes ++
    beBytes 2 m.parse.numParams.toNat ++ m.parse.paramTypes.flatMap (fun t => beBytes 4 t.toNat))

/-- A Parse frame as a client writes it: the tag `P`, a length counting itself and the body, the
statement name and the query as C strings, the number of parameter types as an unsigned 16-bit
value, and the types. -/
def parseFrame (name query : List UInt8) (paramTypes : List UInt32) : List UInt8 :=
  0x50 :: beBytes 4 (4 + (name.length + 1) + (query.length + 1) + 2 + 4 * paramTypes.length) ++
    name ++ 0 :: query ++ 0 :: beBytes 2 paramTypes.length ++
    paramTypes.flatMap (fun t => beBytes 4 t.toNat)

/-! ## Reading what a client wrote -/

@[simp] theorem getU8_cons (b : UInt8) (bs : List UInt8) : getU8 (b :: bs) = some (b, bs) :=
  rfl

theorem getBe_beBytes_append (w n : Nat) (rest : List UInt8) :
    getBe w (beBytes w n ++ rest) = some (n % 256 ^ w, rest) := by
  simp [getBe, readBe_beBytes]

/-- The bytes of a NUL-free list each pass the test `read_until` stops at. -/
theorem ne_zero_of_not_mem {bs : List UInt8} (hbs : (0 : UInt8) ∉ bs) :
    ∀ a ∈ bs, (a != 0) = true := by
  intro a ha
  simpa using fun h : a = 0 => hbs (h ▸ ha)

/-- `read_string` reads a C string, as its UTF-8 reading, and leaves what follows the NUL. -/
theorem readString_append {bs : List UInt8} (hbs : (0 : UInt8) ∉ bs) (rest : List UInt8) :
    readString (bs ++ 0 :: rest) = some (String.ofList (utf8Lossy bs), rest) := by
  rw [readString, List.span_eq_takeWhile_dropWhile,
    List.takeWhile_append_of_pos (ne_zero_of_not_mem hbs),
    List.dropWhile_append_of_pos (ne_zero_of_not_mem hbs)]
  simp

/-- Two NUL-free strings each followed by a NUL are equal when the lists are, and so are the
rests. -/
theorem append_zero_inj {a b x y : List UInt8} (ha : (0 : UInt8) ∉ a) (hb : (0 : UInt8) ∉ b)
    (h : a ++ 0 :: x = b ++ 0 :: y) : a = b ∧ x = y := by
  have hstrings := congrArg (List.takeWhile (· != 0)) h
  rw [List.takeWhile_append_of_pos (ne_zero_of_not_mem ha),
    List.takeWhile_append_of_pos (ne_zero_of_not_mem hb)] at hstrings
  simp only [bne_self_eq_false, Bool.false_eq_true, not_false_eq_true, List.takeWhile_cons_of_neg,
    List.append_nil] at hstrings
  subst hstrings
  exact ⟨rfl, List.cons_injective (List.append_cancel_left h)⟩

theorem getI32s_flatMap (ts : List UInt32) (rest : List UInt8) :
    getI32s ts.length (ts.flatMap (fun t => beBytes 4 t.toNat) ++ rest) = some (ts, rest) := by
  induction ts with
  | nil => rfl
  | cons t ts ih =>
    simp [getI32s, getBe_beBytes_append, ih]

/-- **What a well-formed Parse frame decodes to**: its name and query as UTF-8 text, its count,
and its parameter types unless the count is 32768 or more. -/
theorem tryFrom_parseFrame {name query : List UInt8} (hname : (0 : UInt8) ∉ name)
    (hquery : (0 : UInt8) ∉ query) (paramTypes : List UInt32) (hk : paramTypes.length < 2 ^ 16) :
    ParseMessage.tryFrom (parseFrame name query paramTypes) =
      some ⟨'P', UInt32.ofNat (4 + (name.length + 1) + (query.length + 1) + 2 + 4 * paramTypes.length),
        ⟨String.ofList (utf8Lossy name), String.ofList (utf8Lossy query),
          UInt16.ofNat paramTypes.length, if paramTypes.length < 2 ^ 15 then paramTypes else []⟩⟩ := by
  simp only [ParseMessage.tryFrom, parseFrame, getU8_cons, List.cons_append, List.append_assoc,
    Option.bind_eq_bind, Option.bind_some]
  -- the reads in turn: the length, the two C strings, the count, the types
  rw [getBe_beBytes_append]
  simp only [Option.bind_some]
  rw [readString_append hname]
  simp only [Option.bind_some]
  rw [readString_append hquery]
  simp only [Option.bind_some]
  rw [getBe_beBytes_append, Nat.mod_eq_of_lt (show paramTypes.length < 256 ^ 2 by omega)]
  simp only [Option.bind_some, i16Count_ofNat hk]
  have hlatin : latin1Char 80 = 'P' := by decide
  rw [show (256 : Nat) ^ 4 = 2 ^ 32 from rfl, UInt32.ofNat_mod_size]
  split_ifs with hsmall
  · rw [← List.append_nil (List.flatMap _ _), getI32s_flatMap]
    simp [hlatin]
  · simp [getI32s, hlatin]

theorem getName_parseFrame {name : List UInt8} (hname : (0 : UInt8) ∉ name)
    (query : List UInt8) (paramTypes : List UInt32) :
    Parse.getName (parseFrame name query paramTypes) = some (String.ofList (utf8Lossy name)) := by
  simp [Parse.getName, parseFrame, readString_append hname]

/-! ## Writing a Parse back -/

/-- `to_bytes_with_name` succeeds exactly when neither the name nor the query has a NUL, and then
writes the frame of its fields with the new name. -/
theorem toBytesWithName_eq_ok_iff (m : ParseMessage) (name : String) (out : List UInt8) :
    m.toBytesWithName name = .ok out ↔
      (0 : UInt8) ∉ utf8Bytes name ∧ (0 : UInt8) ∉ utf8Bytes m.parse.query ∧
      out = UInt8.ofNat m.code.toNat :: beBytes 4 (4 + ((utf8Bytes name).length + 1) +
        ((utf8Bytes m.parse.query).length + 1) + 2 + 4 * i16AsUsize m.parse.numParams) ++
        utf8Bytes name ++ 0 :: utf8Bytes m.parse.query ++ 0 :: beBytes 2 m.parse.numParams.toNat ++
        m.parse.paramTypes.flatMap (fun t => beBytes 4 t.toNat) := by
  by_cases hn : (0 : UInt8) ∈ utf8Bytes name
  · obtain ⟨e, he⟩ := cString_of_mem hn
    simp [ParseMessage.toBytesWithName, he, hn, bind, Except.bind]
  by_cases hq : (0 : UInt8) ∈ utf8Bytes m.parse.query
  · obtain ⟨e, he⟩ := cString_of_mem hq
    simp [ParseMessage.toBytesWithName, cString_of_not_mem hn, he, hq, bind, Except.bind]
  simp [ParseMessage.toBytesWithName, cString_of_not_mem hn, cString_of_not_mem hq, hn, hq,
    bind, Except.bind, pure, Except.pure, eq_comm]

/-! ## Re-encoding a decoded frame -/

/-- A frame with no parameter types has none: each type takes four bytes. -/
theorem eq_nil_of_flatMap_beBytes {ts : List UInt32}
    (h : ts.flatMap (fun t => beBytes 4 t.toNat) = []) : ts = [] := by
  rw [List.flatMap_eq_nil_iff] at h
  exact List.eq_nil_iff_forall_not_mem.mpr fun t ht => by simpa using congrArg List.length (h t ht)

/-- **Re-encoding a decoded Parse under its own name.** For a Parse frame with a NUL-free name
and query and any 16-bit count of types, `to_bytes_with_name(get_name(m))` of its decoding gives
the frame back exactly when the name and the query are UTF-8 and the count is below 32768. -/
theorem parse_reencode_iff {name query : List UInt8} (hname : (0 : UInt8) ∉ name)
    (hquery : (0 : UInt8) ∉ query) (paramTypes : List UInt32) (hk : paramTypes.length < 2 ^ 16) :
    (∃ m n, ParseMessage.tryFrom (parseFrame name query paramTypes) = some m ∧
        Parse.getName (parseFrame name query paramTypes) = some n ∧
        m.toBytesWithName n = .ok (parseFrame name query paramTypes)) ↔
      (∃ s, utf8Bytes s = name) ∧ (∃ s, utf8Bytes s = query) ∧ paramTypes.length < 2 ^ 15 := by
  rw [tryFrom_parseFrame hname hquery paramTypes hk, getName_parseFrame hname]
  simp only [Option.some.injEq, exists_and_left, exists_eq_left', toBytesWithName_eq_ok_iff]
  constructor
  · rintro ⟨hn0, hq0, hframe⟩
    -- cut both frames after the tag and the length, then at each NUL
    simp only [parseFrame, List.cons_append, List.append_assoc, List.cons.injEq] at hframe
    obtain ⟨-, hframe⟩ := hframe
    obtain ⟨-, hbody⟩ := List.append_inj hframe (by simp)
    obtain ⟨hnameEq, hbody⟩ := append_zero_inj hname hn0 hbody
    obtain ⟨hqueryEq, hbody⟩ := append_zero_inj hquery hq0 hbody
    obtain ⟨-, htypes⟩ := List.append_inj hbody (by simp)
    refine ⟨⟨_, hnameEq.symm⟩, ⟨_, hqueryEq.symm⟩, ?_⟩
    -- a negative count reads no type, so the frame had none, and its count was 0
    by_contra hlarge
    rw [if_neg hlarge, List.flatMap_nil] at htypes
    simp [eq_nil_of_flatMap_beBytes htypes] at hlarge
  · rintro ⟨⟨s, rfl⟩, ⟨t, rfl⟩, hsmall⟩
    have hs : String.ofList (utf8Lossy (utf8Bytes s)) = s := by
      rw [utf8Lossy_utf8Bytes, String.ofList_toList]
    have ht : String.ofList (utf8Lossy (utf8Bytes t)) = t := by
      rw [utf8Lossy_utf8Bytes, String.ofList_toList]
    have hcount : paramTypes.length % 65536 = paramTypes.length := Nat.mod_eq_of_lt hk
    refine ⟨by rwa [hs], by rwa [ht], ?_⟩
    rw [if_pos hsmall]
    simp [parseFrame, hs, ht, i16AsUsize_ofNat hsmall, hcount]

/-- **Two Parse frames decode alike.** The one-byte queries `FE` and `FF` are no UTF-8 text, and
`read_string` reads each as U+FFFD: the two frames decode to one `Parse`, so to one cache hash,
and writing the decoding back under its own name does not give the frame the client sent. -/
theorem parse_frames_decode_alike :
    ParseMessage.tryFrom (parseFrame [] [0xFE] []) = ParseMessage.tryFrom (parseFrame [] [0xFF] []) ∧
      ¬∃ m n, ParseMessage.tryFrom (parseFrame [] [0xFF] []) = some m ∧
        Parse.getName (parseFrame [] [0xFF] []) = some n ∧
        m.toBytesWithName n = .ok (parseFrame [] [0xFF] []) := by
  have hlossy : utf8Lossy [0xFE] = utf8Lossy [0xFF] := by decide
  constructor
  · rw [tryFrom_parseFrame (by simp) (by decide) [] (by decide),
      tryFrom_parseFrame (by simp) (by decide) [] (by decide), hlossy, List.length_singleton,
      List.length_singleton]
  · rw [parse_reencode_iff (by simp) (by decide) [] (by decide)]
    rintro ⟨-, hquery, -⟩
    exact absurd ((exists_utf8Bytes_iff [0xFF]).mp hquery) (by decide)

/-! ## The Bind codec -/

/-- An `i32` held as its bit pattern, read as its value. -/
def i32Value (n : Nat) : Int :=
  if n < 2 ^ 31 then n else (n : Int) - 2 ^ 32

theorem i32Value_of_lt {n : Nat} (h : n < 2 ^ 31) : i32Value n = n :=
  if_pos h

/-- The bits of a frame's length field, `i32::from_be_bytes([data[1], data[2], data[3], data[4]])`. -/
def lengthField (buf : List UInt8) : Nat :=
  readBe ((buf.drop 1).take 4)

/-- `k` reads of `get_u8`: the next `k` bytes. -/
def getBytes (k : Nat) (bs : List UInt8) : Option (List UInt8 × List UInt8) :=
  if k ≤ bs.length then some (bs.take k, bs.drop k) else none

/-- `n` reads of an `i16`. -/
def getI16s : Nat → List UInt8 → Option (List UInt16 × List UInt8)
  | 0, bs => some ([], bs)
  | n + 1, bs => do
    let (c, bs) ← getBe 2 bs
    let (cs, bs) ← getI16s n bs
    pure (UInt16.ofNat c :: cs, bs)

/-- `n` parameter values: an `i32` length, then that many bytes, or no byte for the NULL `-1`.
A length below `-1` panics, as `BytesMut::with_capacity(param_len as usize)` then asks for more
than `isize::MAX` bytes. -/
def getParamValues : Nat → List UInt8 → Option (List (Int × List UInt8) × List UInt8)
  | 0, bs => some ([], bs)
  | n + 1, bs => do
    let (paramLen, bs) ← getBe 4 bs
    let paramLen := i32Value paramLen
    let (param, bs) ←
      if paramLen = -1 then some ([], bs)
      else if paramLen < -1 then none
      else getBytes paramLen.toNat bs
    let (params, bs) ← getParamValues n bs
    pure ((paramLen, param) :: params, bs)

/-- The fields of a `Bind` after its statement name, each list behind its `i16` count. -/
structure BindParameters where
  numParamFormatCodes : UInt16
  paramFormatCodes : List UInt16
  numParamValues : UInt16
  paramValues : List (Int × List UInt8)
  numResultColumnFormatCodes : UInt16
  resultColumnsFormatCodes : List UInt16
  deriving Repr, DecidableEq

/-- A `Bind` as `TryFrom<&BytesMut>` builds it; `len` is the length field's value. -/
structure BindMessage where
  code : Char
  len : Int
  portal : String
  preparedStatement : String
  parameters : BindParameters
  deriving Repr, DecidableEq

/-- The reads of `TryFrom<&BytesMut> for Bind` after the statement name. -/
def BindParameters.tryFrom (bs : List UInt8) : Option BindParameters := do
  let (numParamFormatCodes, bs) ← getBe 2 bs
  let (paramFormatCodes, bs) ← getI16s (i16Count (UInt16.ofNat numParamFormatCodes)) bs
  let (numParamValues, bs) ← getBe 2 bs
  let (paramValues, bs) ← getParamValues (i16Count (UInt16.ofNat numParamValues)) bs
  let (numResultColumnFormatCodes, bs) ← getBe 2 bs
  let (resultColumnsFormatCodes, _) ←
    getI16s (i16Count (UInt16.ofNat numResultColumnFormatCodes)) bs
  pure ⟨UInt16.ofNat numParamFormatCodes, paramFormatCodes, UInt16.ofNat numParamValues,
    paramValues, UInt16.ofNat numResultColumnFormatCodes, resultColumnsFormatCodes⟩

/-- `TryFrom<&BytesMut> for Bind`; `none` is a panic. -/
def BindMessage.tryFrom (buf : List UInt8) : Option BindMessage := do
  let (code, bs) ← getU8 buf
  let (len, bs) ← getBe 4 bs
  let (portal, bs) ← readString bs
  let (preparedStatement, bs) ← readString bs
  let parameters ← BindParameters.tryFrom bs
  pure ⟨latin1Char code, i32Value len, portal, preparedStatement, parameters⟩

/-- `Bind::get_name`: the bytes between the first NUL after the header and the next, read with
`from_utf8_lossy`. -/
def Bind.getName (buf : List UInt8) : Except Error String :=
  if buf.length < 5 then .error (.parseBytesError "Bind message too short") else
  match (buf.drop 5).idxOf? 0 with
  | none => .error (.parseBytesError "Bind: missing portal null terminator")
  | some p =>
    let portalEnd := p + 5
    let stmtStart := portalEnd + 1
    match (buf.drop stmtStart).idxOf? 0 with
    | none => .error (.parseBytesError "Bind: missing statement null terminator")
    | some q =>
      let stmtEnd := q + stmtStart
      .ok (String.ofList (utf8Lossy ((buf.drop stmtStart).take (stmtEnd - stmtStart))))

/-- `Bind::rename`: the frame with the bytes of `newName` in place of its statement name, and
the length field patched by the difference of the names' lengths in wrapping `i32` arithmetic. -/
def Bind.rename (buf : List UInt8) (newName : String) : Except Error (List UInt8) :=
  if buf.length < 5 then .error (.parseBytesError "Bind message too short") else
  match (buf.drop 5).idxOf? 0 with
  | none => .error (.parseBytesError "Bind: missing portal null terminator")
  | some p =>
    let portalEnd := p + 5
    let stmtStart := portalEnd + 1
    match (buf.drop stmtStart).idxOf? 0 with
    | none => .error (.parseBytesError "Bind: missing statement null terminator")
    | some q =>
      let stmtEnd := q + stmtStart
      let oldStmtLen := stmtEnd - stmtStart
      let paramsStart := stmtEnd + 1
      let currentLen := lengthField buf
      -- `current_len + new_name.len() as i32 - old_stmt_len as i32` on the bit patterns
      let newLen := (currentLen + (utf8Bytes newName).length + (2 ^ 32 - oldStmtLen % 2 ^ 32)) % 2 ^ 32
      .ok (buf.take 1 ++ beBytes 4 newLen ++ (buf.drop 5).take (portalEnd - 5 + 1) ++
        utf8Bytes newName ++ [0] ++ buf.drop paramsStart)

/-- A Bind frame as a client writes it: the tag `B`, a length counting itself and the body, the
portal and the statement name as C strings, and the encoded parameters. -/
def bindFrame (portal statement params : List UInt8) : List UInt8 :=
  0x42 :: beBytes 4 (4 + (portal.length + 1) + (statement.length + 1) + params.length) ++
    portal ++ 0 :: statement ++ 0 :: params

example : Bind.rename (bindFrame [0x70] [0x61, 0x62, 0x63] [0, 0, 0, 0, 0, 0]) "D0" =
    .ok (bindFrame [0x70] [0x44, 0x30] [0, 0, 0, 0, 0, 0]) := by
  decide

/-! ## Renaming a Bind -/

/-- `position(|&b| b == 0)` finds the NUL that ends a NUL-free prefix. -/
theorem idxOf?_append_zero {a : List UInt8} (ha : (0 : UInt8) ∉ a) (rest : List UInt8) :
    (a ++ 0 :: rest).idxOf? 0 = some a.length := by
  induction a with
  | nil => simp [List.idxOf?_cons]
  | cons b bs ih =>
    have hb : b ≠ 0 := fun h => ha (h ▸ List.mem_cons_self)
    rw [List.cons_append, List.idxOf?_cons, ih (fun h => ha (List.mem_cons_of_mem b h))]
    simp [hb]

theorem length_bindFrame (portal statement params : List UInt8) :
    (bindFrame portal statement params).length =
      1 + (4 + (portal.length + 1) + (statement.length + 1) + params.length) := by
  simp [bindFrame]
  omega

theorem lengthField_bindFrame (portal statement params : List UInt8) :
    lengthField (bindFrame portal statement params) =
      (4 + (portal.length + 1) + (statement.length + 1) + params.length) % 2 ^ 32 := by
  simp [lengthField, bindFrame, readBe_beBytes]

/-- After the header, a Bind frame is its portal, a NUL, its statement name, a NUL and the
parameters. -/
theorem drop_header_bindFrame (portal statement params : List UInt8) :
    (bindFrame portal statement params).drop 5 = portal ++ 0 :: (statement ++ 0 :: params) := by
  simp [bindFrame]

theorem drop_portal_bindFrame (portal statement params : List UInt8) :
    (bindFrame portal statement params).drop (portal.length + 5 + 1) = statement ++ 0 :: params := by
  rw [show portal.length + 5 + 1 = 5 + (portal.length + 1) by omega, ← List.drop_drop,
    drop_header_bindFrame]
  simp

theorem getName_bindFrame {portal statement : List UInt8} (hportal : (0 : UInt8) ∉ portal)
    (hstatement : (0 : UInt8) ∉ statement) (params : List UInt8) :
    Bind.getName (bindFrame portal statement params) = .ok (String.ofList (utf8Lossy statement)) := by
  have hlong : ¬(bindFrame portal statement params).length < 5 := by
    rw [length_bindFrame]
    omega
  rw [Bind.getName, if_neg hlong, drop_header_bindFrame, idxOf?_append_zero hportal]
  dsimp only
  rw [drop_portal_bindFrame, idxOf?_append_zero hstatement]
  simp

/-- **`Bind::rename` of a client's Bind**: the frame with the new name's bytes in place of the
statement name, its length field patched modulo `2 ^ 32`. -/
theorem rename_bindFrame {portal statement : List UInt8} (hportal : (0 : UInt8) ∉ portal)
    (hstatement : (0 : UInt8) ∉ statement) (params : List UInt8) (newName : String) :
    Bind.rename (bindFrame portal statement params) newName =
      .ok (bindFrame portal (utf8Bytes newName) params) := by
  have hlong : ¬(bindFrame portal statement params).length < 5 := by
    rw [length_bindFrame]
    omega
  rw [Bind.rename, if_neg hlong, drop_header_bindFrame, idxOf?_append_zero hportal]
  dsimp only
  rw [drop_portal_bindFrame, idxOf?_append_zero hstatement, lengthField_bindFrame]
  dsimp only
  -- the patched length is the new frame's, modulo `2 ^ 32`
  have hnewLen : ((4 + (portal.length + 1) + (statement.length + 1) + params.length) % 2 ^ 32 +
      (utf8Bytes newName).length + (2 ^ 32 - (statement.length + (portal.length + 5 + 1) -
        (portal.length + 5 + 1)) % 2 ^ 32)) % 2 ^ 32 =
      (4 + (portal.length + 1) + ((utf8Bytes newName).length + 1) + params.length) % 256 ^ 4 := by
    omega
  have hparams : (bindFrame portal statement params).drop
      (statement.length + (portal.length + 5 + 1) + 1) = params := by
    rw [show statement.length + (portal.length + 5 + 1) + 1 =
      (portal.length + 5 + 1) + (statement.length + 1) by omega, ← List.drop_drop,
      drop_portal_bindFrame]
    simp
  rw [hnewLen, beBytes_mod, hparams, Nat.add_sub_cancel, List.take_length_add_append]
  simp [bindFrame]

/-- What a client's Bind decodes to: its portal and statement name as UTF-8 text, and the
decoding of what follows them. -/
theorem tryFrom_bindFrame {portal statement : List UInt8} (hportal : (0 : UInt8) ∉ portal)
    (hstatement : (0 : UInt8) ∉ statement) (params : List UInt8) :
    BindMessage.tryFrom (bindFrame portal statement params) =
      (BindParameters.tryFrom params).map fun parameters =>
        ⟨'B', i32Value (lengthField (bindFrame portal statement params)),
          String.ofList (utf8Lossy portal), String.ofList (utf8Lossy statement), parameters⟩ := by
  rw [lengthField_bindFrame]
  simp only [BindMessage.tryFrom, bindFrame, getU8_cons, List.cons_append, List.append_assoc,
    Option.bind_eq_bind, Option.bind_some]
  rw [getBe_beBytes_append]
  simp only [Option.bind_some]
  rw [readString_append hportal]
  simp only [Option.bind_some]
  rw [readString_append hstatement]
  simp only [Option.bind_some]
  have hlatin : latin1Char 0x42 = 'B' := by decide
  rw [show (256 : Nat) ^ 4 = 2 ^ 32 from rfl]
  cases BindParameters.tryFrom params <;> simp [hlatin]

/-- **`Bind::rename` rewrites only the statement name.** For a client's Bind with a NUL-free
portal and statement name, any bytes after them, and a name without NUL: the rename succeeds
with the frame that has the new name, `get_name` reads the new name back, the frame decodes as
the original did with the new statement name and the new length, and that length is the
frame's own whenever it fits in an `i32`. -/
theorem bind_rename_renames {portal statement : List UInt8} (hportal : (0 : UInt8) ∉ portal)
    (hstatement : (0 : UInt8) ∉ statement) (params : List UInt8) {newName : String}
    (hname : (0 : UInt8) ∉ utf8Bytes newName) :
    Bind.rename (bindFrame portal statement params) newName =
        .ok (bindFrame portal (utf8Bytes newName) params) ∧
      Bind.getName (bindFrame portal (utf8Bytes newName) params) = .ok newName ∧
      BindMessage.tryFrom (bindFrame portal (utf8Bytes newName) params) =
        (BindMessage.tryFrom (bindFrame portal statement params)).map (fun b =>
          { b with len := i32Value (lengthField (bindFrame portal (utf8Bytes newName) params)),
                   preparedStatement := newName }) ∧
      ((bindFrame portal (utf8Bytes newName) params).length - 1 < 2 ^ 31 →
        i32Value (lengthField (bindFrame portal (utf8Bytes newName) params)) =
          ((bindFrame portal (utf8Bytes newName) params).length : Int) - 1) := by
  have hlossy : String.ofList (utf8Lossy (utf8Bytes newName)) = newName := by
    rw [utf8Lossy_utf8Bytes, String.ofList_toList]
  refine ⟨rename_bindFrame hportal hstatement params newName, ?_, ?_, ?_⟩
  · rw [getName_bindFrame hportal hname, hlossy]
  · rw [tryFrom_bindFrame hportal hname, tryFrom_bindFrame hportal hstatement, Option.map_map,
      hlossy]
    rfl
  · intro hfits
    rw [length_bindFrame] at hfits ⊢
    rw [lengthField_bindFrame, Nat.mod_eq_of_lt (by omega), i32Value_of_lt (by omega)]
    omega

/-- The rename of `old` to `DOORMAN_0` in a Bind of one parameter value. -/
theorem bind_rename_renames_doorman :
    let params : List UInt8 := [0, 0, 0, 1, 0, 0, 0, 1, 0x61, 0, 0]
    Bind.rename (bindFrame [0x70] [0x6F, 0x6C, 0x64] params) "DOORMAN_0" =
        .ok (bindFrame [0x70] (utf8Bytes "DOORMAN_0") params) ∧
      Bind.getName (bindFrame [0x70] (utf8Bytes "DOORMAN_0") params) = .ok "DOORMAN_0" ∧
      BindMessage.tryFrom (bindFrame [0x70] (utf8Bytes "DOORMAN_0") params) =
        (BindMessage.tryFrom (bindFrame [0x70] [0x6F, 0x6C, 0x64] params)).map (fun b =>
          { b with len := i32Value (lengthField (bindFrame [0x70] (utf8Bytes "DOORMAN_0") params)),
                   preparedStatement := "DOORMAN_0" }) ∧
      i32Value (lengthField (bindFrame [0x70] (utf8Bytes "DOORMAN_0") params)) =
        ((bindFrame [0x70] (utf8Bytes "DOORMAN_0") params).length : Int) - 1 :=
  have h := @bind_rename_renames [0x70] [0x6F, 0x6C, 0x64] (by decide) (by decide)
    [0, 0, 0, 1, 0, 0, 0, 1, 0x61, 0, 0] "DOORMAN_0" (by decide)
  ⟨h.1, h.2.1, h.2.2.1, h.2.2.2 (by decide)⟩

theorem length_utf8Bytes_replicate (k : Nat) :
    (utf8Bytes (String.ofList (List.replicate k 'a'))).length = k := by
  have ha : 'a'.utf8Size = 1 := by decide
  simp [utf8Bytes, List.length_flatMap, ha]

/-- **The patched length wraps.** Renaming the smallest Bind (no portal, no statement name, no
format code, value or result code) to a name of `2 ^ 31` bytes gives a frame whose length field,
read as an `i32`, is its length less one less `2 ^ 32`. -/
theorem bind_rename_length_wraps :
    ∃ out, Bind.rename (bindFrame [] [] [0, 0, 0, 0, 0, 0])
        (String.ofList (List.replicate (2 ^ 31) 'a')) = .ok out ∧
      i32Value (lengthField out) = (out.length : Int) - 1 - 2 ^ 32 := by
  refine ⟨_, rename_bindFrame (by simp) (by simp) _ _, ?_⟩
  rw [lengthField_bindFrame, length_bindFrame, length_utf8Bytes_replicate]
  simp only [List.length_nil, List.length_cons]
  rw [i32Value, if_neg (by norm_num)]
  norm_num

end PgDoorman.Messages
