import PgDoorman.Wire.Buffer
import PgDoorman.Client.BatchHandling
import PgDoorman.Messages.Extended

/-!
# Rewriting a server's response

`src/messages/protocol.rs` has four functions that patch a buffer of backend messages with
messages PostgreSQL never sent, for statements the pooler answered itself:
`insert_parse_complete_before_bind_complete` and
`insert_parse_complete_before_parameter_description` put a ParseComplete before chosen
messages, `insert_close_complete_after_last_close_complete` and
`insert_close_complete_before_ready_for_query` put CloseCompletes after the last CloseComplete
or before the closing ReadyForQuery. Beside them, `has_error_response` scans a buffer for an
ErrorResponse, which with `ends_with_idle_ready_for_query` decides whether the answer to the
pooler's check query is cached.

The insert functions walk the buffer by its length fields, `pos += 1 + msg_len`, with the
length read as an `i32` and cast to `usize`: a negative length sign-extends and the addition
wraps, so on a malformed buffer the walk can go back or stay put and never end. Each walk is
therefore written with `fuel`, one unit per pass through its body, and `none` for a walk that
has not ended. `insert_parse_complete_before_bind_complete` has a fast path for `count == 1`,
which stops at the first position, and `insert_close_complete_before_ready_for_query` moves
the ReadyForQuery inside the buffer's spare capacity in an `unsafe` block when there is room.

## Whole messages

A `Response` is a buffer of whole messages as PostgreSQL writes them: every length field a
non-negative `i32`, and the whole shorter than the address space, so that no position wraps.
On a response every walk reads exactly the messages' headers (`header_encode`), and each
function is a function of the messages.

## Main definitions

* `insertParseCompleteBeforeBindComplete`, `insertParseCompleteBeforeParameterDescription`:
  both over `collectPositions`, the first with its fast path `findInsertPos`
* `insertCloseCompleteAfterLastCloseComplete`, `insertCloseCompleteBeforeReadyForQuery`
* `hasErrorResponse`, `endsWithIdleReadyForQuery`
* `insertFrames`, `eligibleCount`: the insertion over messages

## Main results

* `insertParseCompleteBeforeBindComplete_eq_slowPath`: on every buffer, with every `count` and
  any fuel, the fast paths give what the general loop gives
* `insertParseCompleteBeforeBindComplete_encode`: on a response, the ParseCompletes go before
  the first `count` messages that need one, and nothing else changes
* `eligibleCount_insertFrames_bind`, `eligibleCount_insertFrames_paramDesc`: a ParseComplete
  inserted before a BindComplete satisfies it, one inserted before a ParameterDescription does
  not, since only the first function looks at the message before
* `contents_insertCloseCompleteBeforeReadyForQuery`: the in-place path writes what the copying
  path writes
* `hasErrorResponse_encode_append`: the scan finds an ErrorResponse exactly among the whole
  messages, and goes on past them as on the rest alone
-/

namespace PgDoorman.Messages

open Wire Client

/-! ## Reading the buffer -/

/-- `CLOSE_COMPLETE_MSG`: type `'3'` and the length 4. -/
def closeCompleteMsg : List UInt8 := ['3'.toUInt8, 0, 0, 0, 4]

/-- `READY_FOR_QUERY_SIZE`: type, length and status. -/
def readyForQuerySize : Nat := 6

/-- `count` copies of `CLOSE_COMPLETE_MSG`. -/
def closeCompletes (count : Nat) : List UInt8 :=
  (List.replicate count closeCompleteMsg).flatten

/-- `needs_parse_complete`: BindComplete or ParameterDescription. -/
def needsParseComplete (msgType : UInt8) : Bool :=
  msgType == '2'.toUInt8 || msgType == 't'.toUInt8

/-- `i32 as usize`: a negative length sign-extends to a number close to `2 ^ 64`. -/
def i32AsUsize (n : Nat) : Nat :=
  if n < 2 ^ 31 then n else n + (2 ^ 64 - 2 ^ 32)

/-- `bytes[pos]`, the type of the message at `pos`; the walks read it only where five bytes
are left. -/
def msgTypeAt (bytes : List UInt8) (pos : Nat) : UInt8 :=
  bytes.getD pos 0

/-- `i32::from_be_bytes` of the four bytes after `pos`, `as usize`. -/
def msgLenAt (bytes : List UInt8) (pos : Nat) : Nat :=
  i32AsUsize (lengthField (bytes.drop pos))

/-- `pos + 1 + msg_len` in `usize`: where a walk goes from `pos`. -/
def nextPos (bytes : List UInt8) (pos : Nat) : Nat :=
  (pos + 1 + msgLenAt bytes pos) % 2 ^ 64

/-! ## ParseComplete before chosen messages -/

/-- The messages `insert_parse_complete_before_bind_complete` inserts before: one that needs a
ParseComplete, unless the message before it is one (`prev_msg_type != b'1'`). -/
def bindEligible (prevMsgType msgType : UInt8) : Bool :=
  needsParseComplete msgType && prevMsgType != '1'.toUInt8

/-- The messages `insert_parse_complete_before_parameter_description` inserts before: every
ParameterDescription, whatever came before. -/
def paramDescEligible (_prevMsgType msgType : UInt8) : Bool :=
  msgType == 't'.toUInt8

/-- The walk that collects insertion positions, from `pos` after a message of type
`prevMsgType`: the positions so far, and that of every message `eligible` picks, until there
are `count` or fewer than five bytes are left. The source writes the slow path's test as
`while pos < len && num_positions < count` with `if pos + 5 > len { break }` first in the body,
which ends the loop on the same states. -/
def collectPositions (eligible : UInt8 → UInt8 → Bool) (bytes : List UInt8) (count : Nat) :
    Nat → Nat → UInt8 → List Nat → Option (List Nat)
  | 0, pos, _, positions =>
    if pos + 5 ≤ bytes.length ∧ positions.length < count then none else some positions
  | fuel + 1, pos, prevMsgType, positions =>
    if pos + 5 ≤ bytes.length ∧ positions.length < count then
      let msgType := msgTypeAt bytes pos
      collectPositions eligible bytes count fuel (nextPos bytes pos) msgType
        (if eligible prevMsgType msgType then positions ++ [pos] else positions)
    else some positions

/-- The fast path's walk (`count == 1`): the position of the first message the slow path would
collect, `some none` if the walk ends without one. -/
def findInsertPos (bytes : List UInt8) : Nat → Nat → UInt8 → Option (Option Nat)
  | 0, pos, _ => if pos + 5 ≤ bytes.length then none else some none
  | fuel + 1, pos, prevMsgType =>
    if pos + 5 ≤ bytes.length then
      let msgType := msgTypeAt bytes pos
      if bindEligible prevMsgType msgType then some (some pos)
      else findInsertPos bytes fuel (nextPos bytes pos) msgType
    else some none

/-- The loop that builds `result` from `last_pos` on: the bytes up to each position, then
`msg`; last, the bytes after the last position. -/
def spliceBefore (msg bytes : List UInt8) : Nat → List Nat → Option (List UInt8)
  | lastPos, [] => slice bytes lastPos bytes.length
  | lastPos, pos :: positions => do
    let segment ← slice bytes lastPos pos
    let rest ← spliceBefore msg bytes pos positions
    pure (segment ++ msg ++ rest)

/-- The end of both functions: the buffer as it was if no position was found, else a
ParseComplete before each position, and their number. -/
def insertAtPositions (buffer : List UInt8) (positions : List Nat) : Option (List UInt8 × Nat) :=
  if positions = [] then some (buffer, 0)
  else (spliceBefore parseCompleteMsg buffer 0 positions).map fun result => (result, positions.length)

/-- The slow path of `insert_parse_complete_before_bind_complete`, at any `count`. Its
positions are kept in an array of eight and a `Vec` for the rest, read back in order: a list
here. -/
def insertParseCompleteSlowPath (fuel : Nat) (buffer : List UInt8) (count : Nat) :
    Option (List UInt8 × Nat) :=
  (collectPositions bindEligible buffer count fuel 0 0 []).bind (insertAtPositions buffer)

/-- `insert_parse_complete_before_bind_complete(buffer, count)`: nothing for `count == 0`, the
fast path for `count == 1`, the slow path otherwise. -/
def insertParseCompleteBeforeBindComplete (fuel : Nat) (buffer : List UInt8) (count : Nat) :
    Option (List UInt8 × Nat) :=
  if count = 0 then some (buffer, 0)
  else if count = 1 then
    match findInsertPos buffer fuel 0 0 with
    | none => none
    | some none => some (buffer, 0)
    | some (some pos) => do
      let front ← slice buffer 0 pos
      let back ← slice buffer pos buffer.length
      pure (front ++ parseCompleteMsg ++ back, 1)
  else insertParseCompleteSlowPath fuel buffer count

/-- `insert_parse_complete_before_parameter_description(buffer, count)`. -/
def insertParseCompleteBeforeParameterDescription (fuel : Nat) (buffer : List UInt8)
    (count : Nat) : Option (List UInt8 × Nat) :=
  if count = 0 then some (buffer, 0)
  else (collectPositions paramDescEligible buffer count fuel 0 0 []).bind (insertAtPositions buffer)

/-! ## CloseComplete after the last CloseComplete -/

/-- The walk of `insert_close_complete_after_last_close_complete`: the end of the last
CloseComplete met, `pos + 1 + msg_len`. -/
def findLastCloseCompleteEnd (bytes : List UInt8) : Nat → Nat → Option Nat → Option (Option Nat)
  | 0, pos, last => if pos + 5 ≤ bytes.length then none else some last
  | fuel + 1, pos, last =>
    if pos + 5 ≤ bytes.length then
      findLastCloseCompleteEnd bytes fuel (nextPos bytes pos)
        (if msgTypeAt bytes pos = '3'.toUInt8 then some (nextPos bytes pos) else last)
    else some last

/-- `count` CloseCompletes at `insertPos`, the slices on either side taken as the source takes
them. -/
def insertCloseCompletesAt (buffer : List UInt8) (insertPos count : Nat) :
    Option (List UInt8 × Nat) := do
  let front ← slice buffer 0 insertPos
  let back ← slice buffer insertPos buffer.length
  pure (front ++ closeCompletes count ++ back, count)

/-- `insert_close_complete_after_last_close_complete(buffer, count)`: after the last
CloseComplete; without one, before a final ReadyForQuery, recognised by its type byte six
bytes from the end; without that, nothing. -/
def insertCloseCompleteAfterLastCloseComplete (fuel : Nat) (buffer : List UInt8) (count : Nat) :
    Option (List UInt8 × Nat) :=
  if count = 0 then some (buffer, 0)
  else
    (findLastCloseCompleteEnd buffer fuel 0 none).bind fun
      | some insertPos => insertCloseCompletesAt buffer insertPos count
      | none =>
        if readyForQuerySize ≤ buffer.length ∧
            msgTypeAt buffer (buffer.length - readyForQuerySize) = 'Z'.toUInt8 then
          insertCloseCompletesAt buffer (buffer.length - readyForQuerySize) count
        else some (buffer, 0)

/-! ## CloseComplete before ReadyForQuery, in place -/

/-- The `for _ in 0..count` loop of the `unsafe` block: `CLOSE_COMPLETE_MSG` written at
`offset`, which then moves past it. -/
def writeCloseCompletes (mem : List UInt8) (offset : Nat) : Nat → List UInt8
  | 0 => mem
  | count + 1 => writeCloseCompletes (write mem offset closeCompleteMsg) (offset + 5) count

/-- The `unsafe` block's writes: the ReadyForQuery at the end of the contents moved right by
`5 * count`, then the CloseCompletes written into the gap. For `count = 1` the two ranges of the
move overlap by a byte; `std::ptr::copy` allows it. -/
def insertInPlace (mem : List UInt8) (len count : Nat) : List UInt8 :=
  let rfqStart := len - readyForQuerySize
  writeCloseCompletes (move mem rfqStart (rfqStart + 5 * count) readyForQuerySize) rfqStart count

/-- The `for _ in 0..count` loops of the other paths: `extend_from_slice(&CLOSE_COMPLETE_MSG)`. -/
def extendCloseCompletes (b : BytesMut) : Nat → BytesMut
  | 0 => b
  | count + 1 => extendCloseCompletes (b.extendFromSlice closeCompleteMsg) count

theorem length_writeCloseCompletes (mem : List UInt8) (offset count : Nat)
    (h : offset + 5 * count ≤ mem.length) :
    (writeCloseCompletes mem offset count).length = mem.length := by
  induction count generalizing mem offset with
  | zero => rfl
  | succ count ih =>
    have hwrite : (write mem offset closeCompleteMsg).length = mem.length :=
      length_write (by simp only [closeCompleteMsg, List.length_cons, List.length_nil]; omega)
    rw [writeCloseCompletes, ih _ _ (by omega), hwrite]

theorem length_insertInPlace (mem : List UInt8) {len : Nat} (count : Nat)
    (hlen : readyForQuerySize ≤ len) (h : len + 5 * count ≤ mem.length) :
    (insertInPlace mem len count).length = mem.length := by
  simp only [insertInPlace, readyForQuerySize] at hlen ⊢
  have hmove : (move mem (len - 6) (len - 6 + 5 * count) 6).length = mem.length := by
    unfold move
    apply length_write
    simp only [List.length_take, List.length_drop]
    omega
  rw [length_writeCloseCompletes _ _ _ (by rw [hmove]; omega), hmove]

/-- `insert_close_complete_before_ready_for_query(buffer, count)`. With a ReadyForQuery at the
end and room in the spare capacity the buffer is patched in place; with a ReadyForQuery and no
room, copied into a new buffer; without one, the CloseCompletes are appended. -/
def insertCloseCompleteBeforeReadyForQuery (buffer : BytesMut) (count : Nat) : BytesMut :=
  if count = 0 then buffer
  else
    let insertSize := 5 * count
    let len := buffer.len
    if hz : readyForQuerySize ≤ len ∧
        msgTypeAt buffer.contents (len - readyForQuerySize) = 'Z'.toUInt8 then
      if h : insertSize ≤ buffer.capacity - len then
        ⟨insertInPlace buffer.mem len count, len + insertSize, by
          have hcap := buffer.len_le
          unfold BytesMut.capacity at h
          rw [length_insertInPlace _ _ hz.1 (by omega)]
          omega⟩
      else
        let result := (BytesMut.withCapacity (len + insertSize)).extendFromSlice
          (buffer.contents.take (len - readyForQuerySize))
        (extendCloseCompletes result count).extendFromSlice
          (buffer.contents.drop (len - readyForQuerySize))
    else extendCloseCompletes (buffer.reserve insertSize) count

/-! ## Scanning for an ErrorResponse -/

/-- The loop of `has_error_response` from `offset`: an ErrorResponse's type ends it with
`true`; a length below 4, one whose end overflows (`checked_add`) or passes the buffer's end
ends it with `false`, as does a header cut short. -/
def hasErrorResponseFrom (bytes : List UInt8) (offset : Nat) : Bool :=
  if h : offset + 5 ≤ bytes.length then
    if msgTypeAt bytes offset = 'E'.toUInt8 then true
    else
      let len := i32Value (lengthField (bytes.drop offset))
      if hlen : len < 4 then false
      else
        let frameEnd := offset + 1 + len.toNat
        if frameEnd ≥ 2 ^ 64 then false
        else if frameEnd > bytes.length then false
        else hasErrorResponseFrom bytes frameEnd
  else false
termination_by bytes.length - offset
decreasing_by omega

/-- `has_error_response`. -/
def hasErrorResponse (bytes : List UInt8) : Bool :=
  hasErrorResponseFrom bytes 0

/-- `ends_with_idle_ready_for_query`: the buffer ends with `Z 00 00 00 05 I`. -/
def endsWithIdleReadyForQuery (bytes : List UInt8) : Bool :=
  ['Z'.toUInt8, 0, 0, 0, 5, 'I'.toUInt8].isSuffixOf bytes

/-- The test `handle_pooler_check_query` makes before caching the answer to the check query. -/
def cachesCheckResponse (response : List UInt8) : Bool :=
  !hasErrorResponse response && endsWithIdleReadyForQuery response

/-! ## Whole messages -/

/-- A buffer of whole backend messages as PostgreSQL writes them: every length field a
non-negative `i32`, and the buffer shorter than `2 ^ 64` bytes, as every allocation is. -/
structure Response where
  frames : List Frame
  signed : ∀ f ∈ frames, f.body.length + 4 < 2 ^ 31
  short : (encode frames).length < 2 ^ 64

theorem length_frame_bytes (f : Frame) : f.bytes.length = f.body.length + 5 := by
  simp only [Frame.bytes, List.length_cons, List.length_append, length_beBytes]
  omega

/-- What a walk reads at the start of a whole message: its type, its length field, and the
position just past it. -/
theorem header_bytes {p t : List UInt8} {f : Frame} (hf : f.body.length + 4 < 2 ^ 31)
    (hlen : (p ++ f.bytes ++ t).length < 2 ^ 64) :
    p.length + 5 ≤ (p ++ f.bytes ++ t).length ∧ msgTypeAt (p ++ f.bytes ++ t) p.length = f.tag ∧
      lengthField ((p ++ f.bytes ++ t).drop p.length) = f.body.length + 4 ∧
      nextPos (p ++ f.bytes ++ t) p.length = p.length + f.bytes.length := by
  have hsize := length_frame_bytes f
  have htotal : (p ++ f.bytes ++ t).length = p.length + f.bytes.length + t.length := by
    simp only [List.length_append]
  have hdrop : (p ++ f.bytes ++ t).drop p.length =
      f.tag :: (beBytes 4 (f.body.length + 4) ++ f.body ++ t) := by
    rw [List.append_assoc, List.drop_left]
    simp [Frame.bytes]
  obtain ⟨-, hread, -, -, -⟩ :=
    Frame.read_bytes f (show f.WellSized by unfold Frame.WellSized; omega) t
  have hfield : lengthField ((p ++ f.bytes ++ t).drop p.length) = f.body.length + 4 := by
    rw [hdrop, lengthField, List.drop_one, List.tail_cons]
    exact hread
  refine ⟨by omega, ?_, hfield, ?_⟩
  · rw [msgTypeAt, List.getD_eq_getElem?_getD, ← List.head?_drop, hdrop]
    rfl
  · rw [nextPos, msgLenAt, hfield, i32AsUsize, if_pos hf, Nat.mod_eq_of_lt (by omega)]
    omega

/-! ## The insertion over messages -/

/-- Over messages: a ParseComplete before each of the first `count` messages `eligible` picks,
given the type of the message before; and how many were inserted. -/
def insertFrames (eligible : UInt8 → UInt8 → Bool) : Nat → UInt8 → List Frame → List Frame × Nat
  | 0, _, fs => (fs, 0)
  | _, _, [] => ([], 0)
  | count + 1, prevMsgType, f :: fs =>
    if eligible prevMsgType f.tag then
      let rest := insertFrames eligible count f.tag fs
      (parseComplete :: f :: rest.1, rest.2 + 1)
    else
      let rest := insertFrames eligible (count + 1) f.tag fs
      (f :: rest.1, rest.2)

/-- Where, in the bytes of `fs` placed at `base`, `insertFrames` inserts. -/
def eligibleOffsets (eligible : UInt8 → UInt8 → Bool) : Nat → UInt8 → Nat → List Frame → List Nat
  | 0, _, _, _ => []
  | _, _, _, [] => []
  | count + 1, prevMsgType, base, f :: fs =>
    if eligible prevMsgType f.tag then
      base :: eligibleOffsets eligible count f.tag (base + f.bytes.length) fs
    else eligibleOffsets eligible (count + 1) f.tag (base + f.bytes.length) fs

/-- How many messages of `fs` `eligible` picks, with no bound. -/
def eligibleCount (eligible : UInt8 → UInt8 → Bool) : UInt8 → List Frame → Nat
  | _, [] => 0
  | prevMsgType, f :: fs =>
    (if eligible prevMsgType f.tag then 1 else 0) + eligibleCount eligible f.tag fs

section Insertion

variable (eligible : UInt8 → UInt8 → Bool)

@[simp] theorem insertFrames_nil (count : Nat) (prevMsgType : UInt8) :
    insertFrames eligible count prevMsgType [] = ([], 0) := by
  cases count <;> rfl

@[simp] theorem eligibleOffsets_nil (count : Nat) (prevMsgType : UInt8) (base : Nat) :
    eligibleOffsets eligible count prevMsgType base [] = [] := by
  cases count <;> rfl

theorem length_eligibleOffsets (fs : List Frame) :
    ∀ (count : Nat) (prevMsgType : UInt8) (base : Nat),
      (eligibleOffsets eligible count prevMsgType base fs).length =
        (insertFrames eligible count prevMsgType fs).2 := by
  induction fs with
  | nil => simp
  | cons f fs ih =>
    intro count prevMsgType base
    cases count with
    | zero => rfl
    | succ count =>
      simp only [eligibleOffsets, insertFrames]
      split <;> simp [ih]

/-- An insertion of nothing leaves the messages as they were. -/
theorem insertFrames_of_snd_eq_zero (fs : List Frame) :
    ∀ (count : Nat) (prevMsgType : UInt8), (insertFrames eligible count prevMsgType fs).2 = 0 →
      (insertFrames eligible count prevMsgType fs).1 = fs := by
  induction fs with
  | nil => simp
  | cons f fs ih =>
    intro count prevMsgType h
    cases count with
    | zero => rfl
    | succ count =>
      simp only [insertFrames] at h ⊢
      split at h
      · simp at h
      · rw [if_neg ‹_›, ih _ _ h]

/-- Only ParseCompletes are inserted: nothing of the messages is dropped, altered or moved. -/
theorem filter_insertFrames (fs : List Frame) :
    ∀ (count : Nat) (prevMsgType : UInt8),
      (insertFrames eligible count prevMsgType fs).1.filter (· ≠ parseComplete) =
        fs.filter (· ≠ parseComplete) := by
  induction fs with
  | nil => simp
  | cons f fs ih =>
    intro count prevMsgType
    cases count with
    | zero => rfl
    | succ count =>
      by_cases he : eligible prevMsgType f.tag = true
      · simp only [insertFrames, he, ↓reduceIte, List.filter_cons, ih, ne_eq, not_true_eq_false,
          decide_false, Bool.false_eq_true]
      · simp only [insertFrames, he, Bool.false_eq_true, ↓reduceIte, List.filter_cons, ih]

/-- As many are inserted as asked for, or as there are messages to insert before. -/
theorem snd_insertFrames (fs : List Frame) :
    ∀ (count : Nat) (prevMsgType : UInt8),
      (insertFrames eligible count prevMsgType fs).2 =
        min count (eligibleCount eligible prevMsgType fs) := by
  induction fs with
  | nil => simp [eligibleCount]
  | cons f fs ih =>
    intro count prevMsgType
    cases count with
    | zero => simp [insertFrames]
    | succ count =>
      by_cases he : eligible prevMsgType f.tag = true
      · simp only [insertFrames, eligibleCount, he, ↓reduceIte, ih]
        omega
      · simp only [insertFrames, eligibleCount, he, Bool.false_eq_true, ↓reduceIte, ih]
        omega

end Insertion

/-- The type of a ParseComplete needs no ParseComplete. -/
theorem needsParseComplete_parseComplete : needsParseComplete parseComplete.tag = false := by
  decide

/-- A ParseComplete inserted before a BindComplete or ParameterDescription satisfies it: in the
output, exactly the messages no ParseComplete was inserted before still need one. -/
theorem eligibleCount_insertFrames_bind (fs : List Frame) :
    ∀ (count : Nat) (prevMsgType : UInt8),
      eligibleCount bindEligible prevMsgType (insertFrames bindEligible count prevMsgType fs).1 =
        eligibleCount bindEligible prevMsgType fs - count := by
  induction fs with
  | nil => simp [eligibleCount]
  | cons f fs ih =>
    intro count prevMsgType
    cases count with
    | zero => simp [insertFrames]
    | succ count =>
      by_cases he : bindEligible prevMsgType f.tag = true
      · -- neither the ParseComplete nor the message after it is picked any more
        have hpc : bindEligible prevMsgType parseComplete.tag = false := by
          simp [bindEligible, needsParseComplete_parseComplete]
        have hafter : bindEligible parseComplete.tag f.tag = false := by
          simp [bindEligible, parseComplete]
        simp only [insertFrames, eligibleCount, he, hpc, hafter, ↓reduceIte, ih,
          Bool.false_eq_true]
        omega
      · simp only [insertFrames, eligibleCount, he, Bool.false_eq_true, ↓reduceIte, ih]
        omega

/-- A ParseComplete inserted before a ParameterDescription does not satisfy it: every
ParameterDescription is still picked in the output, so a second call inserts again. -/
theorem eligibleCount_insertFrames_paramDesc (fs : List Frame) :
    ∀ (count : Nat) (prevMsgType : UInt8),
      eligibleCount paramDescEligible prevMsgType
          (insertFrames paramDescEligible count prevMsgType fs).1 =
        eligibleCount paramDescEligible prevMsgType fs := by
  induction fs with
  | nil => simp [eligibleCount]
  | cons f fs ih =>
    intro count prevMsgType
    cases count with
    | zero => simp [insertFrames]
    | succ count =>
      have hpc : paramDescEligible prevMsgType parseComplete.tag = false := by
        simp only [paramDescEligible, parseComplete]
        decide
      -- whether `f` is picked does not depend on the message before it
      have hsame : paramDescEligible parseComplete.tag f.tag = paramDescEligible prevMsgType f.tag :=
        rfl
      by_cases he : paramDescEligible prevMsgType f.tag = true
      · simp only [insertFrames, eligibleCount, he, hpc, hsame, ↓reduceIte, ih,
          Bool.false_eq_true]
        omega
      · simp only [insertFrames, eligibleCount, he, Bool.false_eq_true, ↓reduceIte, ih]

/-! ## The walks over whole messages -/

section Walks

variable (eligible : UInt8 → UInt8 → Bool)

/-- Over whole messages the collecting walk reads every header, and collects the offsets of the
messages `insertFrames` inserts before, one pass per message. -/
theorem collectPositions_encode (count : Nat) (fs : List Frame) :
    ∀ (pre : List Frame) (fuel : Nat) (prevMsgType : UInt8) (positions : List Nat),
      (∀ f ∈ fs, f.body.length + 4 < 2 ^ 31) → (encode (pre ++ fs)).length < 2 ^ 64 →
      fs.length ≤ fuel → positions.length ≤ count →
      collectPositions eligible (encode (pre ++ fs)) count fuel (encode pre).length prevMsgType
          positions =
        some (positions ++
          eligibleOffsets eligible (count - positions.length) prevMsgType (encode pre).length fs) := by
  induction fs with
  | nil =>
    -- fewer than five bytes are left: the walk ends where it is
    intro pre fuel prevMsgType positions _ _ _ _
    have hend : ¬ ((encode pre).length + 5 ≤ (encode pre).length ∧ positions.length < count) :=
      fun h => by omega
    cases fuel <;> simp only [List.append_nil, collectPositions, if_neg hend, eligibleOffsets_nil]
  | cons f fs ih =>
    intro pre fuel prevMsgType positions hfs hlen hfuel hpos
    obtain ⟨fuel, rfl⟩ : ∃ k, fuel = k + 1 := ⟨fuel - 1, by simp at hfuel; omega⟩
    have hbytes : encode (pre ++ f :: fs) = encode pre ++ f.bytes ++ encode fs := by simp
    have hsplit : pre ++ f :: fs = pre ++ [f] ++ fs := by simp
    obtain ⟨h5, htype, -, hnext⟩ := header_bytes (hfs f List.mem_cons_self) (hbytes ▸ hlen)
    rw [← hbytes] at h5 htype hnext
    have hbase : (encode pre).length + f.bytes.length = (encode (pre ++ [f])).length := by simp
    have hrest : ∀ g ∈ fs, g.body.length + 4 < 2 ^ 31 := fun g hg => hfs g (List.mem_cons_of_mem f hg)
    rcases Nat.lt_or_ge positions.length count with hlt | hge
    · -- the walk reads this message, collects it or not, and goes on from the next one
      obtain ⟨n, hn⟩ : ∃ n, count - positions.length = n + 1 := ⟨count - positions.length - 1, by omega⟩
      rw [collectPositions, if_pos ⟨h5, hlt⟩]
      simp only [htype, hnext, hn, eligibleOffsets, hbase]
      rw [hsplit] at hlen ⊢
      by_cases he : eligible prevMsgType f.tag = true
      · rw [if_pos he, if_pos he, ih (pre ++ [f]) fuel f.tag _ hrest hlen (by simp at hfuel; omega)
          (by simp; omega)]
        simp only [List.length_append, List.length_singleton, List.append_assoc, List.cons_append,
          List.nil_append]
        rw [show count - (positions.length + 1) = n by omega]
      · rw [if_neg he, if_neg he, ih (pre ++ [f]) fuel f.tag _ hrest hlen (by simp at hfuel; omega)
          hpos, hn]
    · -- `count` positions already: the walk stops
      have hstop : ¬ ((encode pre).length + 5 ≤ (encode (pre ++ f :: fs)).length ∧
          positions.length < count) := fun h => absurd h.2 (by omega)
      rw [collectPositions, if_neg hstop, show count - positions.length = 0 by omega]
      simp [eligibleOffsets]

/-- Over whole messages the building loop puts a ParseComplete at each offset `insertFrames`
inserts at: from the end of `pre`, it copies the messages `mid` and then the insertion over
`fs`. -/
theorem spliceBefore_encode (fs : List Frame) :
    ∀ (pre mid : List Frame) (count : Nat) (prevMsgType : UInt8),
      spliceBefore parseCompleteMsg (encode (pre ++ mid ++ fs)) (encode pre).length
          (eligibleOffsets eligible count prevMsgType (encode (pre ++ mid)).length fs) =
        some (encode mid ++ encode (insertFrames eligible count prevMsgType fs).1) := by
  induction fs with
  | nil =>
    intro pre mid count prevMsgType
    simp only [eligibleOffsets_nil, spliceBefore, insertFrames_nil, encode_nil, List.append_nil,
      encode_append]
    exact slice_append_length _ _
  | cons f fs ih =>
    intro pre mid count prevMsgType
    cases count with
    | zero =>
      -- nothing more to insert: the rest is copied
      simp only [eligibleOffsets, spliceBefore, insertFrames, encode_append]
      rw [List.append_assoc]
      exact slice_append_length _ _
    | succ count =>
      have hsplit : pre ++ mid ++ f :: fs = pre ++ mid ++ [f] ++ fs := by simp
      have hbase : (encode (pre ++ mid)).length + f.bytes.length =
          (encode (pre ++ mid ++ [f])).length := by
        simp only [encode_append, encode_cons, encode_nil, List.append_nil, List.length_append]
      by_cases he : eligible prevMsgType f.tag = true
      · -- the bytes of `mid`, a ParseComplete, then the rest from this message on
        have hseg : slice (encode (pre ++ mid ++ [f] ++ fs)) (encode pre).length
            (encode (pre ++ mid)).length = some (encode mid) := by
          have h := slice_append_middle (encode pre) (encode mid) (encode ([f] ++ fs))
          simpa only [encode_append, List.length_append, List.append_assoc] using h
        simp only [eligibleOffsets, he, ↓reduceIte, spliceBefore, insertFrames, hsplit, hseg,
          hbase]
        rw [show pre ++ mid ++ [f] ++ fs = (pre ++ mid) ++ [f] ++ fs by simp, ih (pre ++ mid) [f]]
        simp [parseCompleteMsg_eq]
      · -- this message joins the bytes copied in one piece
        simp only [eligibleOffsets, he, Bool.false_eq_true, ↓reduceIte, insertFrames, hbase]
        rw [hsplit, show pre ++ mid ++ [f] ++ fs = pre ++ (mid ++ [f]) ++ fs by simp,
          show pre ++ mid ++ [f] = pre ++ (mid ++ [f]) by simp, ih pre (mid ++ [f])]
        simp

/-- The end of both functions over a response: the insertion over its messages. -/
theorem insertAtPositions_collect_encode (r : Response) (count k : Nat) :
    (collectPositions eligible (encode r.frames) count (r.frames.length + k) 0 0 []).bind
        (insertAtPositions (encode r.frames)) =
      some (encode (insertFrames eligible count 0 r.frames).1,
        (insertFrames eligible count 0 r.frames).2) := by
  have hcollect := collectPositions_encode eligible count r.frames [] (r.frames.length + k) 0 []
    r.signed (by simpa using r.short) (by omega) (by simp)
  simp only [List.nil_append, encode_nil, List.length_nil, Nat.sub_zero] at hcollect
  rw [hcollect, Option.bind_some, insertAtPositions]
  split
  · -- no position: the insertion inserted nothing
    rename_i hnil
    have hzero : (insertFrames eligible count 0 r.frames).2 = 0 := by
      rw [← length_eligibleOffsets, hnil, List.length_nil]
    rw [insertFrames_of_snd_eq_zero eligible r.frames count 0 hzero, hzero]
  · have hsplice := spliceBefore_encode eligible r.frames [] [] count 0
    simp only [List.nil_append, encode_nil, List.length_nil] at hsplice
    rw [hsplice, Option.map_some, length_eligibleOffsets]

end Walks

/-! ## The fast path -/

/-- A walk that has its `count` positions stops at once. -/
theorem collectPositions_of_le (eligible : UInt8 → UInt8 → Bool) (bytes : List UInt8)
    {count : Nat} (fuel pos : Nat) (prevMsgType : UInt8) {positions : List Nat}
    (h : count ≤ positions.length) :
    collectPositions eligible bytes count fuel pos prevMsgType positions = some positions := by
  have hstop : ¬ (pos + 5 ≤ bytes.length ∧ positions.length < count) := fun h' => by omega
  cases fuel <;> simp only [collectPositions, if_neg hstop]

/-- The fast path's walk is the collecting walk for one position. -/
theorem collectPositions_one (bytes : List UInt8) (fuel : Nat) :
    ∀ (pos : Nat) (prevMsgType : UInt8),
      collectPositions bindEligible bytes 1 fuel pos prevMsgType [] =
        (findInsertPos bytes fuel pos prevMsgType).map Option.toList := by
  induction fuel with
  | zero =>
    intro pos prevMsgType
    simp only [collectPositions, findInsertPos, List.length_nil, Nat.lt_one_iff, and_true]
    split <;> rfl
  | succ fuel ih =>
    intro pos prevMsgType
    simp only [collectPositions, findInsertPos, List.length_nil, Nat.zero_lt_one, and_true]
    split
    · split
      · -- the first position found: the collecting walk has its one position and stops
        rw [collectPositions_of_le _ _ _ _ _ (by simp)]
        rfl
      · rw [ih]
    · rfl

/-- With nothing to insert, the slow path collects nothing and leaves the buffer. -/
theorem insertParseCompleteSlowPath_zero (fuel : Nat) (buffer : List UInt8) :
    insertParseCompleteSlowPath fuel buffer 0 = some (buffer, 0) := by
  rw [insertParseCompleteSlowPath, collectPositions_of_le _ _ _ _ _ (by simp), Option.bind_some,
    insertAtPositions, if_pos rfl]

/-- The fast path gives what the slow path gives for one insertion. -/
theorem insertParseCompleteBeforeBindComplete_one (fuel : Nat) (buffer : List UInt8) :
    insertParseCompleteBeforeBindComplete fuel buffer 1 = insertParseCompleteSlowPath fuel buffer 1 := by
  rw [insertParseCompleteBeforeBindComplete, if_neg one_ne_zero, if_pos rfl,
    insertParseCompleteSlowPath, collectPositions_one]
  rcases findInsertPos buffer fuel 0 0 with _ | _ | pos
  · rfl
  · simp [insertAtPositions]
  · -- one position: the slices of the fast path are those of the building loop
    simp only [Option.map_some, Option.toList_some, Option.bind_some, insertAtPositions,
      List.cons_ne_nil, ↓reduceIte, spliceBefore, List.length_singleton]
    cases slice buffer 0 pos <;> cases slice buffer pos buffer.length <;> rfl

/-- The fast paths agree with the general loop: on every buffer, whatever `count`, and with
the same fuel, `insert_parse_complete_before_bind_complete` gives what its slow path alone would
give, so the shortcuts for `count == 0` and `count == 1` change nothing. -/
theorem insertParseCompleteBeforeBindComplete_eq_slowPath (fuel : Nat) (buffer : List UInt8)
    (count : Nat) :
    insertParseCompleteBeforeBindComplete fuel buffer count =
      insertParseCompleteSlowPath fuel buffer count := by
  rcases count with _ | _ | count
  · rw [insertParseCompleteSlowPath_zero, insertParseCompleteBeforeBindComplete, if_pos rfl]
  · exact insertParseCompleteBeforeBindComplete_one fuel buffer
  · rw [insertParseCompleteBeforeBindComplete, if_neg (by omega), if_neg (by omega)]

/-- The slow path over whole messages: the ParseCompletes go before the first `count` messages
that need one, and nothing else changes. -/
theorem insertParseCompleteSlowPath_encode (r : Response) (count k : Nat) :
    let out := (insertFrames bindEligible count 0 r.frames).1
    insertParseCompleteSlowPath (r.frames.length + k) (encode r.frames) count =
        some (encode out, min count (eligibleCount bindEligible 0 r.frames)) ∧
      out.filter (· ≠ parseComplete) = r.frames.filter (· ≠ parseComplete) ∧
      eligibleCount bindEligible 0 out = eligibleCount bindEligible 0 r.frames - count := by
  refine ⟨?_, filter_insertFrames _ _ _ _, eligibleCount_insertFrames_bind _ _ _⟩
  rw [insertParseCompleteSlowPath, insertAtPositions_collect_encode, snd_insertFrames]

/-- **ParseComplete before BindComplete.** On every buffer, with every `count` and fuel,
`insert_parse_complete_before_bind_complete`'s fast paths give what its general loop gives. On a
response of whole messages, with a pass per message, it writes the messages `insertFrames` gives:
a ParseComplete before each of the first `count` BindCompletes and ParameterDescriptions not
already after one, and returns how many it inserted: `count`, or all of them if there are fewer.
It inserts nothing else and drops, alters or moves no message, and exactly the messages it did
not reach still need one. -/
theorem insertParseCompleteBeforeBindComplete_spec :
    (∀ fuel buffer count, insertParseCompleteBeforeBindComplete fuel buffer count =
      insertParseCompleteSlowPath fuel buffer count) ∧
    ∀ (r : Response) (count k : Nat),
      let out := (insertFrames bindEligible count 0 r.frames).1
      insertParseCompleteBeforeBindComplete (r.frames.length + k) (encode r.frames) count =
          some (encode out, min count (eligibleCount bindEligible 0 r.frames)) ∧
        out.filter (· ≠ parseComplete) = r.frames.filter (· ≠ parseComplete) ∧
        eligibleCount bindEligible 0 out = eligibleCount bindEligible 0 r.frames - count := by
  refine ⟨insertParseCompleteBeforeBindComplete_eq_slowPath, fun r count k => ?_⟩
  rw [insertParseCompleteBeforeBindComplete_eq_slowPath]
  exact insertParseCompleteSlowPath_encode r count k

/-- **ParseComplete before ParameterDescription.** On a response of whole messages, with a pass
per message, `insert_parse_complete_before_parameter_description` writes the messages
`insertFrames` gives: a ParseComplete before each of the first `count` ParameterDescriptions,
whatever comes before them, and returns how many it inserted. It inserts nothing else, and every
ParameterDescription still counts as needing one afterwards, so a second call inserts again. -/
theorem insertParseCompleteBeforeParameterDescription_encode (r : Response) (count k : Nat) :
    let out := (insertFrames paramDescEligible count 0 r.frames).1
    insertParseCompleteBeforeParameterDescription (r.frames.length + k) (encode r.frames) count =
        some (encode out, min count (eligibleCount paramDescEligible 0 r.frames)) ∧
      out.filter (· ≠ parseComplete) = r.frames.filter (· ≠ parseComplete) ∧
      eligibleCount paramDescEligible 0 out = eligibleCount paramDescEligible 0 r.frames := by
  refine ⟨?_, filter_insertFrames _ _ _ _, eligibleCount_insertFrames_paramDesc _ _ _⟩
  unfold insertParseCompleteBeforeParameterDescription
  split
  · rename_i h0
    subst h0
    simp [insertFrames]
  · rw [insertAtPositions_collect_encode, snd_insertFrames]

/-! ## The in-place path -/

@[simp] theorem length_closeCompletes (count : Nat) : (closeCompletes count).length = 5 * count := by
  simp [closeCompletes, closeCompleteMsg, Nat.mul_comm]

theorem closeCompletes_succ (count : Nat) :
    closeCompletes (count + 1) = closeCompleteMsg ++ closeCompletes count := by
  simp [closeCompletes, List.replicate_succ]

/-- The loop of writes is one write of all the CloseCompletes. -/
theorem writeCloseCompletes_eq (count : Nat) :
    ∀ (mem : List UInt8) (offset : Nat), offset ≤ mem.length →
      writeCloseCompletes mem offset count = write mem offset (closeCompletes count) := by
  induction count with
  | zero =>
    intro mem offset _
    simp [writeCloseCompletes, closeCompletes]
  | succ count ih =>
    intro mem offset h
    have hreach : offset + closeCompleteMsg.length ≤ (write mem offset closeCompleteMsg).length :=
      le_length_write _ h
    rw [writeCloseCompletes, show offset + 5 = offset + closeCompleteMsg.length from rfl,
      ih _ _ hreach, closeCompletes_succ,
      ← write_write_of_adjacent_after _ _ h]

/-- The `unsafe` block writes, where the ReadyForQuery was, the CloseCompletes and then the
ReadyForQuery as it was read before the move. -/
theorem insertInPlace_eq (mem : List UInt8) {len : Nat} (count : Nat)
    (hlen : readyForQuerySize ≤ len) (h : len + 5 * count ≤ mem.length) :
    insertInPlace mem len count = write mem (len - readyForQuerySize)
      (closeCompletes count ++ (mem.drop (len - readyForQuerySize)).take readyForQuerySize) := by
  simp only [insertInPlace, readyForQuerySize] at hlen ⊢
  have hmove : (move mem (len - 6) (len - 6 + 5 * count) 6).length = mem.length := by
    unfold move
    apply length_write
    simp only [List.length_take, List.length_drop]
    omega
  rw [writeCloseCompletes_eq _ _ _ (by rw [hmove]; omega), move, ← length_closeCompletes,
    write_write_of_adjacent _ _ (by simp only [length_closeCompletes]; omega)]

/-- What the in-place path leaves as contents: the copying path's bytes. -/
theorem take_insertInPlace (mem : List UInt8) {len : Nat} (count : Nat)
    (hlen : readyForQuerySize ≤ len) (h : len + 5 * count ≤ mem.length) :
    (insertInPlace mem len count).take (len + 5 * count) =
      (mem.take len).take (len - readyForQuerySize) ++ closeCompletes count ++
        (mem.take len).drop (len - readyForQuerySize) := by
  rw [insertInPlace_eq mem count hlen h]
  unfold readyForQuerySize at hlen ⊢
  have hrfq : ((mem.drop (len - 6)).take 6).length = 6 := by
    simp only [List.length_take, List.length_drop]
    omega
  have hend : len + 5 * count =
      (len - 6) + (closeCompletes count ++ (mem.drop (len - 6)).take 6).length := by
    simp only [List.length_append, length_closeCompletes, hrfq]
    omega
  rw [hend, take_write _ (by omega), List.take_take, Nat.min_eq_left (by omega), List.drop_take,
    show len - (len - 6) = 6 by omega, List.append_assoc]

theorem contents_extendCloseCompletes (b : BytesMut) (count : Nat) :
    (extendCloseCompletes b count).contents = b.contents ++ closeCompletes count := by
  induction count generalizing b with
  | zero => simp [extendCloseCompletes, closeCompletes]
  | succ count ih =>
    rw [extendCloseCompletes, ih, BytesMut.contents_extendFromSlice, closeCompletes_succ,
      List.append_assoc]

/-- **CloseComplete before ReadyForQuery, on every buffer.** Whatever its contents and spare
capacity, and whatever bytes that capacity held, `insert_close_complete_before_ready_for_query`
leaves the CloseCompletes just before the last six bytes when they start with a ReadyForQuery's
type, and at the end otherwise: the `unsafe` in-place path, taken when the capacity allows, writes
exactly what the copying path writes. -/
theorem contents_insertCloseCompleteBeforeReadyForQuery (buffer : BytesMut) (count : Nat) :
    (insertCloseCompleteBeforeReadyForQuery buffer count).contents =
      if readyForQuerySize ≤ buffer.len ∧
          msgTypeAt buffer.contents (buffer.len - readyForQuerySize) = 'Z'.toUInt8 then
        buffer.contents.take (buffer.len - readyForQuerySize) ++ closeCompletes count ++
          buffer.contents.drop (buffer.len - readyForQuerySize)
      else buffer.contents ++ closeCompletes count := by
  unfold insertCloseCompleteBeforeReadyForQuery
  by_cases h0 : count = 0
  · -- no CloseComplete: either way the contents stay
    subst h0
    simp [closeCompletes]
  rw [if_neg h0]
  dsimp only
  by_cases hz : readyForQuerySize ≤ buffer.len ∧
      msgTypeAt buffer.contents (buffer.len - readyForQuerySize) = 'Z'.toUInt8
  · rw [dif_pos hz, if_pos hz]
    by_cases hroom : 5 * count ≤ buffer.capacity - buffer.len
    · -- in place
      rw [dif_pos hroom]
      have hcap := buffer.len_le
      unfold BytesMut.capacity at hroom
      exact take_insertInPlace buffer.mem count hz.1 (by omega)
    · -- into a new buffer
      rw [dif_neg hroom]
      simp [contents_extendCloseCompletes]
  · rw [dif_neg hz, if_neg hz, contents_extendCloseCompletes, BytesMut.contents_reserve]

/-! ## The scan for an ErrorResponse -/

/-- The scan does not depend on where the buffer it reads starts: past a prefix it goes as on
the rest alone. A length field whose end overflows (`checked_add`) ends the scan as one that
runs past the end would. -/
theorem hasErrorResponseFrom_append (p t : List UInt8) (hlen : (p ++ t).length < 2 ^ 64)
    (k : Nat) : hasErrorResponseFrom (p ++ t) (p.length + k) = hasErrorResponseFrom t k := by
  induction hn : t.length - k using Nat.strong_induction_on generalizing k with
  | _ n ih =>
    have htotal : (p ++ t).length = p.length + t.length := List.length_append
    have htype : msgTypeAt (p ++ t) (p.length + k) = msgTypeAt t k := by
      simp only [msgTypeAt, List.getD_eq_getElem?_getD, List.getElem?_append_right
        (Nat.le_add_right _ _), Nat.add_sub_cancel_left]
    have hdrop : (p ++ t).drop (p.length + k) = t.drop k := List.drop_length_add_append k
    rw [hasErrorResponseFrom, hasErrorResponseFrom]
    simp only [htotal, htype, hdrop]
    by_cases h5 : k + 5 ≤ t.length
    · rw [dif_pos (by omega), dif_pos h5]
      -- the same message is read on both sides; only the positions differ by `p.length`
      split_ifs with hE hsmall hover hover' hpast hpast' <;> first
        | rfl
        | omega
        | (rw [Nat.add_assoc p.length, Nat.add_assoc p.length]
           exact ih _ (by omega) _ rfl)
    · rw [dif_neg (by omega), dif_neg h5]

/-- The scan at the start of a whole message: an ErrorResponse ends it with `true`, any other
message sends it on to the next. -/
theorem hasErrorResponseFrom_frame {p t : List UInt8} {f : Frame}
    (hf : f.body.length + 4 < 2 ^ 31) (hlen : (p ++ f.bytes ++ t).length < 2 ^ 64) :
    hasErrorResponseFrom (p ++ f.bytes ++ t) p.length =
      (f.tag == 'E'.toUInt8 ||
        hasErrorResponseFrom (p ++ f.bytes ++ t) (p.length + f.bytes.length)) := by
  obtain ⟨h5, htype, hfield, -⟩ := header_bytes hf hlen
  have hsize := length_frame_bytes f
  have htotal : (p ++ f.bytes ++ t).length = p.length + f.bytes.length + t.length := by
    simp only [List.length_append]
  rw [hasErrorResponseFrom, dif_pos h5, htype]
  by_cases hE : f.tag = 'E'.toUInt8
  · simp [hE]
  · -- a length of at least 4 whose end is inside the buffer
    have hval : i32Value (f.body.length + 4) = ((f.body.length + 4 : Nat) : Int) := i32Value_of_lt hf
    simp only [if_neg hE, hfield, hval, Int.toNat_natCast]
    rw [dif_neg (by omega), if_neg (by omega), if_neg (by omega),
      show p.length + 1 + (f.body.length + 4) = p.length + f.bytes.length by omega]
    simp [hE]

/-- Over whole messages, the scan reports an ErrorResponse among them, and otherwise goes on
past them. -/
theorem hasErrorResponseFrom_encode (fs : List Frame) :
    ∀ (p t : List UInt8), (∀ f ∈ fs, f.body.length + 4 < 2 ^ 31) →
      (p ++ encode fs ++ t).length < 2 ^ 64 →
      hasErrorResponseFrom (p ++ encode fs ++ t) p.length =
        (fs.any (·.tag == 'E'.toUInt8) ||
          hasErrorResponseFrom (p ++ encode fs ++ t) (p ++ encode fs).length) := by
  induction fs with
  | nil =>
    intro p t _ _
    simp
  | cons f fs ih =>
    intro p t hfs hlen
    have hsplit : p ++ encode (f :: fs) ++ t = p ++ f.bytes ++ (encode fs ++ t) := by simp
    have hnext : p ++ encode (f :: fs) ++ t = (p ++ f.bytes) ++ encode fs ++ t := by simp
    rw [hsplit] at hlen ⊢
    rw [hasErrorResponseFrom_frame (hfs f List.mem_cons_self) hlen, ← hsplit, hnext,
      ← List.length_append, ih (p ++ f.bytes) t (fun g hg => hfs g (List.mem_cons_of_mem f hg))
        (hnext ▸ hsplit ▸ hlen)]
    simp only [List.any_cons, Bool.or_assoc, encode_cons, List.append_assoc]

/-- **The scan for an ErrorResponse, over whole messages.** On a response followed by any bytes,
`has_error_response` is true exactly when one of the response's messages is an ErrorResponse or
the scan of the bytes after them alone finds one: it reads every whole message, never reports
one that is not there, and past them goes on as it would on the rest alone. -/
theorem hasErrorResponse_encode_append (r : Response) (t : List UInt8)
    (hlen : (encode r.frames ++ t).length < 2 ^ 64) :
    hasErrorResponse (encode r.frames ++ t) =
      (r.frames.any (·.tag == 'E'.toUInt8) || hasErrorResponse t) := by
  have h := hasErrorResponseFrom_encode r.frames [] t r.signed (by simpa using hlen)
  simp only [List.nil_append, List.length_nil] at h
  rw [hasErrorResponse, h, hasErrorResponse, ← hasErrorResponseFrom_append (encode r.frames) t hlen 0,
    Nat.add_zero]

/-- The answer to `SELECT 1` whose rows were passed on: CommandComplete `SELECT 1`, then
ReadyForQuery idle. -/
def selectOneResponse : Response where
  frames := [commandComplete [83, 69, 76, 69, 67, 84, 32, 49, 0], readyForQuery 'I'.toUInt8]
  signed := by decide
  short := by decide

/-- The scan of that answer followed by the start of an ErrorResponse cut after its type. -/
theorem hasErrorResponse_selectOne_cut_error :
    (encode selectOneResponse.frames ++ ['E'.toUInt8, 0, 0]).length < 2 ^ 64 ∧
      hasErrorResponse (encode selectOneResponse.frames ++ ['E'.toUInt8, 0, 0]) =
        (selectOneResponse.frames.any (·.tag == 'E'.toUInt8) ||
          hasErrorResponse ['E'.toUInt8, 0, 0]) :=
  ⟨by decide, hasErrorResponse_encode_append selectOneResponse _ (by decide)⟩

/-! ## CloseComplete after the last CloseComplete, over messages -/

/-- Over messages: `extra` right after the last CloseComplete, if there is one. -/
def afterLastCloseComplete (extra : List Frame) : List Frame → Option (List Frame)
  | [] => none
  | f :: fs =>
    match afterLastCloseComplete extra fs with
    | some rest => some (f :: rest)
    | none => if f.tag = '3'.toUInt8 then some (f :: (extra ++ fs)) else none

/-- Over messages that end with a ReadyForQuery `rfq`: `count` CloseCompletes after the last
CloseComplete, or before `rfq` if there is none. -/
def closeCompleteFrames (count : Nat) (fs : List Frame) (rfq : Frame) : List Frame :=
  match afterLastCloseComplete (List.replicate count closeComplete) (fs ++ [rfq]) with
  | some out => out
  | none => fs ++ List.replicate count closeComplete ++ [rfq]

/-- Where the walk of `findLastCloseCompleteEnd` leaves its result, over messages at `base`. -/
def lastCloseCompleteEnd : Nat → Option Nat → List Frame → Option Nat
  | _, last, [] => last
  | base, last, f :: fs =>
    lastCloseCompleteEnd (base + f.bytes.length)
      (if f.tag = '3'.toUInt8 then some (base + f.bytes.length) else last) fs

theorem closeCompletes_eq (count : Nat) :
    closeCompletes count = encode (List.replicate count closeComplete) := by
  induction count with
  | zero => rfl
  | succ count ih => rw [closeCompletes_succ, ih, List.replicate_succ, encode_cons]; rfl

/-- The CloseCompletes inserted at a boundary of the buffer. -/
theorem insertCloseCompletesAt_append (a b : List UInt8) (count : Nat) :
    insertCloseCompletesAt (a ++ b) a.length count = some (a ++ closeCompletes count ++ b, count) := by
  have hfront : slice (a ++ b) 0 a.length = some a := by
    simpa using slice_append_middle [] a b
  have hback : slice (a ++ b) a.length (a.length + b.length) = some b := by
    simpa using slice_append_middle a b []
  simp [insertCloseCompletesAt, hfront, hback]

/-- Over whole messages the walk reads every header and ends with `lastCloseCompleteEnd`. -/
theorem findLastCloseCompleteEnd_encode (fs : List Frame) :
    ∀ (pre : List Frame) (fuel : Nat) (last : Option Nat),
      (∀ f ∈ fs, f.body.length + 4 < 2 ^ 31) → (encode (pre ++ fs)).length < 2 ^ 64 →
      fs.length ≤ fuel →
      findLastCloseCompleteEnd (encode (pre ++ fs)) fuel (encode pre).length last =
        some (lastCloseCompleteEnd (encode pre).length last fs) := by
  induction fs with
  | nil =>
    intro pre fuel last _ _ _
    have hend : ¬ (encode pre).length + 5 ≤ (encode pre).length := by omega
    cases fuel <;> simp only [List.append_nil, findLastCloseCompleteEnd, if_neg hend,
      lastCloseCompleteEnd]
  | cons f fs ih =>
    intro pre fuel last hfs hlen hfuel
    obtain ⟨fuel, rfl⟩ : ∃ k, fuel = k + 1 := ⟨fuel - 1, by simp at hfuel; omega⟩
    have hbytes : encode (pre ++ f :: fs) = encode pre ++ f.bytes ++ encode fs := by simp
    obtain ⟨h5, htype, -, hnext⟩ := header_bytes (hfs f List.mem_cons_self) (hbytes ▸ hlen)
    rw [← hbytes] at h5 htype hnext
    have hbase : (encode pre).length + f.bytes.length = (encode (pre ++ [f])).length := by simp
    have hsplit : pre ++ f :: fs = pre ++ [f] ++ fs := by simp
    rw [findLastCloseCompleteEnd, if_pos h5, htype, hnext, lastCloseCompleteEnd, hbase, hsplit,
      ih (pre ++ [f]) fuel _ (fun g hg => hfs g (List.mem_cons_of_mem f hg)) (hsplit ▸ hlen)
        (by simp at hfuel; omega)]

/-- With nothing to insert, the insertion leaves the messages. -/
theorem afterLastCloseComplete_nil_extra (gs : List Frame) :
    ∀ out, afterLastCloseComplete [] gs = some out → out = gs := by
  induction gs with
  | nil => intro out h; cases h
  | cons g gs ih =>
    intro out h
    simp only [afterLastCloseComplete] at h
    split at h
    · rename_i rest hrest
      cases h
      rw [ih rest hrest]
    · split at h
      · cases h
        rfl
      · cases h

/-- What `lastCloseCompleteEnd` finds: the end of the last CloseComplete, where inserting gives
`afterLastCloseComplete`; or, with no CloseComplete, what it was given. -/
theorem lastCloseCompleteEnd_spec (count : Nat) (fs : List Frame) :
    ∀ (pre : List Frame) (last : Option Nat),
      match afterLastCloseComplete (List.replicate count closeComplete) fs with
      | some out => ∃ e, lastCloseCompleteEnd (encode pre).length last fs = some e ∧
          insertCloseCompletesAt (encode (pre ++ fs)) e count = some (encode (pre ++ out), count)
      | none => lastCloseCompleteEnd (encode pre).length last fs = last := by
  induction fs with
  | nil => intro pre last; rfl
  | cons f fs ih =>
    intro pre last
    have hbase : (encode pre).length + f.bytes.length = (encode (pre ++ [f])).length := by simp
    have hsplit : pre ++ f :: fs = pre ++ [f] ++ fs := by simp
    have hrest := ih (pre ++ [f]) (if f.tag = '3'.toUInt8 then some (encode (pre ++ [f])).length
      else last)
    rw [afterLastCloseComplete]
    cases hout : afterLastCloseComplete (List.replicate count closeComplete) fs with
    | some out =>
      -- a later CloseComplete: the last one is there
      simp only [hout] at hrest
      obtain ⟨e, he, hins⟩ := hrest
      refine ⟨e, by rw [lastCloseCompleteEnd, hbase, he], ?_⟩
      rw [hsplit, hins]
      simp
    | none =>
      simp only [hout] at hrest
      by_cases h3 : f.tag = '3'.toUInt8
      · -- this is the last CloseComplete: insert right after it
        simp only [h3, ↓reduceIte]
        refine ⟨(encode (pre ++ [f])).length, by rw [lastCloseCompleteEnd, hbase, hrest, if_pos h3],
          ?_⟩
        rw [hsplit, encode_append, insertCloseCompletesAt_append, closeCompletes_eq]
        simp
      · simp only [h3, ↓reduceIte]
        rw [lastCloseCompleteEnd, hbase, hrest, if_neg h3]

/-- **CloseComplete after the last CloseComplete, over whole messages.** On a response that
ends with a ReadyForQuery, with a pass per message,
`insert_close_complete_after_last_close_complete` inserts the `count` CloseCompletes right after
the last CloseComplete, or just before the ReadyForQuery if there is none, and reports all
`count` inserted: the response stays a sequence of whole messages. -/
theorem insertCloseCompleteAfterLastCloseComplete_encode (r : Response) (fs : List Frame)
    (status : UInt8) (hr : r.frames = fs ++ [readyForQuery status]) (count k : Nat) :
    insertCloseCompleteAfterLastCloseComplete (r.frames.length + k) (encode r.frames) count =
      some (encode (closeCompleteFrames count fs (readyForQuery status)), count) := by
  have hwalk := findLastCloseCompleteEnd_encode r.frames [] (r.frames.length + k) none r.signed
    (by simpa using r.short) (by omega)
  have hspec := lastCloseCompleteEnd_spec count r.frames [] none
  simp only [List.nil_append, encode_nil, List.length_nil] at hwalk hspec
  unfold insertCloseCompleteAfterLastCloseComplete closeCompleteFrames
  rw [← hr]
  by_cases h0 : count = 0
  · -- nothing to insert: the messages stay as they are
    subst h0
    rw [if_pos rfl]
    cases hout : afterLastCloseComplete (List.replicate 0 closeComplete) r.frames with
    | none => simp [hr]
    | some out => rw [afterLastCloseComplete_nil_extra r.frames out hout]
  rw [if_neg h0, hwalk, Option.bind_some]
  cases hout : afterLastCloseComplete (List.replicate count closeComplete) r.frames with
  | some out =>
    simp only [hout] at hspec
    obtain ⟨e, he, hins⟩ := hspec
    simp only [he, hins]
  | none =>
    simp only [hout] at hspec
    simp only [hspec]
    -- no CloseComplete: the last six bytes are the ReadyForQuery
    have hbuf : encode r.frames = encode fs ++ (readyForQuery status).bytes := by simp [hr]
    have hsix : (readyForQuery status).bytes.length = readyForQuerySize := by
      simp [readyForQuery, Frame.bytes, readyForQuerySize]
    have htype : msgTypeAt (encode fs ++ (readyForQuery status).bytes) (encode fs).length =
        'Z'.toUInt8 := by
      simp [msgTypeAt, readyForQuery, Frame.bytes]
    rw [hbuf, List.length_append, hsix, Nat.add_sub_cancel, if_pos ⟨by omega, htype⟩,
      insertCloseCompletesAt_append, closeCompletes_eq]
    simp

/-- The answer to a Close and a `SELECT 1`: CloseComplete, CommandComplete `SELECT 1`, then
ReadyForQuery idle. -/
def closeSelectOneResponse : Response where
  frames := [closeComplete, commandComplete [83, 69, 76, 69, 67, 84, 32, 49, 0],
    readyForQuery 'I'.toUInt8]
  signed := by decide
  short := by decide

/-- Two CloseCompletes into the answer to `SELECT 1`, which has no CloseComplete, go before its
ReadyForQuery; into the answer to a Close and a `SELECT 1`, right after the CloseComplete. -/
theorem insertCloseCompleteAfterLastCloseComplete_answers :
    (selectOneResponse.frames =
        [commandComplete [83, 69, 76, 69, 67, 84, 32, 49, 0]] ++ [readyForQuery 'I'.toUInt8] ∧
      insertCloseCompleteAfterLastCloseComplete (selectOneResponse.frames.length + 0)
          (encode selectOneResponse.frames) 2 =
        some (encode [commandComplete [83, 69, 76, 69, 67, 84, 32, 49, 0], closeComplete,
          closeComplete, readyForQuery 'I'.toUInt8], 2)) ∧
    (closeSelectOneResponse.frames =
        [closeComplete, commandComplete [83, 69, 76, 69, 67, 84, 32, 49, 0]] ++
          [readyForQuery 'I'.toUInt8] ∧
      insertCloseCompleteAfterLastCloseComplete (closeSelectOneResponse.frames.length + 0)
          (encode closeSelectOneResponse.frames) 2 =
        some (encode [closeComplete, closeComplete, closeComplete,
          commandComplete [83, 69, 76, 69, 67, 84, 32, 49, 0], readyForQuery 'I'.toUInt8], 2)) := by
  have hselect : selectOneResponse.frames =
      [commandComplete [83, 69, 76, 69, 67, 84, 32, 49, 0]] ++ [readyForQuery 'I'.toUInt8] := rfl
  have hclose : closeSelectOneResponse.frames =
      [closeComplete, commandComplete [83, 69, 76, 69, 67, 84, 32, 49, 0]] ++
        [readyForQuery 'I'.toUInt8] := rfl
  refine ⟨⟨hselect, ?_⟩, ⟨hclose, ?_⟩⟩
  · rw [insertCloseCompleteAfterLastCloseComplete_encode selectOneResponse _ _ hselect 2 0]
    rfl
  · rw [insertCloseCompleteAfterLastCloseComplete_encode closeSelectOneResponse _ _ hclose 2 0]
    rfl

end PgDoorman.Messages
