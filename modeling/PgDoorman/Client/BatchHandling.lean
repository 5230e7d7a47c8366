import PgDoorman.Wire.Bytes

/-!
# Synthetic ParseComplete messages in a batch's response

When a client's Parse names a statement the server already holds, the pooler does not forward
it, and records `BatchOperation::ParseSkipped` in its place in the batch. The client still waits
for a ParseComplete in that place, so `Client::reorder_parse_complete_responses` rewrites each
chunk of the server's answer, inserting one five-byte ParseComplete for each skipped Parse.

It does so without positions: a first loop over the batch attaches each run of skipped Parses
to the next operation that answers with a message of a countable kind (the `n`-th Bind, the
`n`-th Describe, the `n`-th Execute, the `n`-th Close), a second loop over the response counts
those messages and inserts before the right one. Counts carried between chunks in
`processed_response_counts` let the second loop resume in the next chunk.

## The model

The bytes of a chunk are a `List UInt8`, and both loops are translated as the source writes
them, reading a type byte and a big-endian length and giving up on a truncated message
(`rebuild`, `countMessages`). Over chunks made of whole frames these loops are functions of
the frames (`rebuild_encode`, `countMessages_encode`), which is where every proof works.

The meaning the reordering must have is PostgreSQL's own answer to the unabridged batch:
`Reply` lists what an error-free server answers to each operation, `forwardedResponse` is the
answer to the batch with the skipped Parses removed, and `pgResponse` the answer to the whole
batch. `SimulatesPostgres` states that feeding the former, in any chunks, through the
reordering gives the latter.

## Main definitions

* `BatchOperation`, `ResponseCounts`, `PreparedState`: the bookkeeping the function reads
* `planStep`: the first loop, attaching pending insertions to operations
* `scanMessage`: what the second loop does at one message
* `reorderParseCompleteResponses`: the function, on one chunk; `reorderChunks` over a batch
* `Reply`, `forwardedResponse`, `pgResponse`, `SimulatesPostgres`: the reference behaviour

## Main results

* `rebuild_encode`: on whole frames, the rebuilding loop inserts ParseCompletes and copies
  every frame
* `reorderParseCompleteResponses_encode`: on whole frames, the reordering of bytes is the
  reordering of frames `reorderFrames`
* `erase_reorderFrames`: the reordering only inserts ParseCompletes; it never drops, alters or
  moves a message of the server
* `reorder_zero_row_execute`: a skipped Parse between a Bind and an Execute that returns no
  row gets its ParseComplete after the Execute's CommandComplete
* `not_simulatesPostgres`: so the reordering does not simulate PostgreSQL
-/

namespace PgDoorman.Client

open Wire

/-! ## The bookkeeping -/

/-- `BatchOperation`: one client message of the batch, in order. The statement names the source
records with some of them are not read by the reordering. -/
inductive BatchOperation where
  | parseSkipped
  | parseSent
  | describe
  | describePortal
  | bind
  | execute
  | close
  deriving Repr, DecidableEq

/-- `ResponseCounts`: the messages of each counted kind already passed on in the current
batch, over its earlier chunks. -/
structure ResponseCounts where
  bindComplete : Nat
  paramDesc : Nat
  execute : Nat
  closeComplete : Nat
  deriving Repr, DecidableEq

namespace ResponseCounts

/-- `ResponseCounts::clear`, and the default. -/
def cleared : ResponseCounts := ⟨0, 0, 0, 0⟩

/-- The four `+=` updates of `processed_response_counts` at the end of the function. -/
def add (c d : ResponseCounts) : ResponseCounts :=
  ⟨c.bindComplete + d.bindComplete, c.paramDesc + d.paramDesc, c.execute + d.execute,
    c.closeComplete + d.closeComplete⟩

/-- The `match msg_type` of the counting loop: BindComplete, ParameterDescription,
CommandComplete and CloseComplete are counted. -/
def count (c : ResponseCounts) (msgType : UInt8) : ResponseCounts :=
  if msgType = '2'.toUInt8 then { c with bindComplete := c.bindComplete + 1 }
  else if msgType = 't'.toUInt8 then { c with paramDesc := c.paramDesc + 1 }
  else if msgType = 'C'.toUInt8 then { c with execute := c.execute + 1 }
  else if msgType = '3'.toUInt8 then { c with closeComplete := c.closeComplete + 1 }
  else c

end ResponseCounts

/-- `InsertionMap`: pairs `(index, count)`, "insert `count` ParseCompletes before the response
of that index". -/
abbrev InsertionMap := List (Nat × Nat)

/-- `insertion_map_add`: add to the entry of `index`, or push a new one at the end. -/
def insertionMapAdd : InsertionMap → Nat → Nat → InsertionMap
  | [], index, count => [(index, count)]
  | (idx, c) :: rest, index, count =>
    if idx = index then (idx, c + count) :: rest else (idx, c) :: insertionMapAdd rest index count

/-- `insertion_map_get`: the count of the first entry of `index`. -/
def insertionMapGet (map : InsertionMap) (index : Nat) : Option Nat :=
  (map.find? fun e => e.1 = index).map Prod.snd

/-- `insertion_map_sum`. -/
def insertionMapSum (map : InsertionMap) : Nat :=
  (map.map Prod.snd).sum

/-- The fields of `ClientPreparedState` the function reads and writes. Of `skipped_parses` only
the length is modelled: the function tests it for emptiness. -/
structure PreparedState where
  batchOperations : List BatchOperation
  skippedParses : Nat
  processedResponseCounts : ResponseCounts
  deriving Repr, DecidableEq

/-! ## The first loop: attaching skipped Parses to operations -/

/-- The accumulators of the loop over `batch_operations`. -/
structure Plan where
  insertBeforeBind : InsertionMap
  insertBeforeParamDesc : InsertionMap
  insertBeforeExecute : InsertionMap
  insertBeforeClose : InsertionMap
  pendingInsertions : Nat
  bindIndex : Nat
  describeIndex : Nat
  executeIndex : Nat
  closeIndex : Nat
  deriving Repr, DecidableEq

/-- The accumulators before the loop. -/
def Plan.init : Plan := ⟨[], [], [], [], 0, 0, 0, 0, 0⟩

/-- The step every answering kind shares: `if pending_insertions > 0 { insertion_map_add(map,
index, pending_insertions) }`; the caller then clears the pending count. -/
def attachPending (map : InsertionMap) (index pending : Nat) : InsertionMap :=
  if 0 < pending then insertionMapAdd map index pending else map

/-- One iteration of the loop over `batch_operations`. Describe, Bind, Execute and Close take
the pending insertions for their own index; a Describe of a portal leaves them pending. -/
def planStep (p : Plan) : BatchOperation → Plan
  | .parseSkipped => { p with pendingInsertions := p.pendingInsertions + 1 }
  | .parseSent => p
  | .describe =>
    { p with
      insertBeforeParamDesc := attachPending p.insertBeforeParamDesc p.describeIndex
        p.pendingInsertions
      pendingInsertions := 0
      describeIndex := p.describeIndex + 1 }
  | .bind =>
    { p with
      insertBeforeBind := attachPending p.insertBeforeBind p.bindIndex p.pendingInsertions
      pendingInsertions := 0
      bindIndex := p.bindIndex + 1 }
  | .describePortal => p
  | .execute =>
    { p with
      insertBeforeExecute := attachPending p.insertBeforeExecute p.executeIndex
        p.pendingInsertions
      pendingInsertions := 0
      executeIndex := p.executeIndex + 1 }
  | .close =>
    { p with
      insertBeforeClose := attachPending p.insertBeforeClose p.closeIndex p.pendingInsertions
      pendingInsertions := 0
      closeIndex := p.closeIndex + 1 }

/-- The entries of a map at or after `offset`, re-indexed from it: the `relevant_*` maps, whose
indices count from the start of the current chunk. -/
def relevantMap (map : InsertionMap) (offset : Nat) : InsertionMap :=
  (map.filter fun e => offset ≤ e.1).map fun e => (e.1 - offset, e.2)

/-- The four `relevant_*` maps of one chunk. -/
structure Insertions where
  bind : InsertionMap
  paramDesc : InsertionMap
  execute : InsertionMap
  close : InsertionMap
  deriving Repr, DecidableEq

/-- The maps of a plan, re-indexed past the responses of earlier chunks. -/
def Plan.relevant (p : Plan) (c : ResponseCounts) : Insertions :=
  ⟨relevantMap p.insertBeforeBind c.bindComplete, relevantMap p.insertBeforeParamDesc c.paramDesc,
    relevantMap p.insertBeforeExecute c.execute, relevantMap p.insertBeforeClose c.closeComplete⟩

/-- `total_insertions`. -/
def Insertions.total (r : Insertions) : Nat :=
  insertionMapSum r.bind + insertionMapSum r.paramDesc + insertionMapSum r.execute +
    insertionMapSum r.close

/-! ## The second loop: inserting before messages -/

/-- The counters of the rebuilding loop. -/
structure Scan where
  bindCount : Nat
  paramDescCount : Nat
  executeCount : Nat
  closeCount : Nat
  insertedCount : Nat
  inExecute : Bool
  deriving Repr, DecidableEq

/-- The counters before the loop. -/
def Scan.init : Scan := ⟨0, 0, 0, 0, 0, false⟩

/-- The counts the loop adds to `processed_response_counts`. -/
def Scan.counts (s : Scan) : ResponseCounts :=
  ⟨s.bindCount, s.paramDescCount, s.executeCount, s.closeCount⟩

/-- The `match msg_type` of the rebuilding loop: how many ParseCompletes go before a message of
this type, and the counters after it. The map of the kind is read at the kind's own count; an
Execute's insertion goes before the first DataRow, NoData or RowDescription met outside an
Execute, and only a CommandComplete ends one; an ErrorResponse flushes the maps, and
ReadyForQuery flushes everything, the still pending insertions included. The subtractions are
those of `usize`: in a chunk, which ends at the ReadyForQuery, they never go below zero. -/
def scanMessage (r : Insertions) (pending : Nat) (s : Scan) (msgType : UInt8) : Nat × Scan :=
  if msgType = '2'.toUInt8 then
    let n := (insertionMapGet r.bind s.bindCount).getD 0
    (n, { s with insertedCount := s.insertedCount + n, bindCount := s.bindCount + 1 })
  else if msgType = 't'.toUInt8 then
    let n := (insertionMapGet r.paramDesc s.paramDescCount).getD 0
    (n, { s with insertedCount := s.insertedCount + n, paramDescCount := s.paramDescCount + 1 })
  else if msgType = '3'.toUInt8 then
    let n := (insertionMapGet r.close s.closeCount).getD 0
    (n, { s with insertedCount := s.insertedCount + n, closeCount := s.closeCount + 1 })
  else if msgType = 'C'.toUInt8 then
    (0, { s with inExecute := false, executeCount := s.executeCount + 1 })
  else if msgType = 'D'.toUInt8 ∨ msgType = 'n'.toUInt8 ∨ msgType = 'T'.toUInt8 then
    if s.inExecute then (0, s)
    else
      let n := (insertionMapGet r.execute s.executeCount).getD 0
      (n, { s with insertedCount := s.insertedCount + n, inExecute := true })
  else if msgType = 'E'.toUInt8 then
    let n := r.total - s.insertedCount
    (n, { s with insertedCount := s.insertedCount + n })
  else if msgType = 'Z'.toUInt8 then
    let n := r.total + pending - s.insertedCount
    (n, { s with insertedCount := s.insertedCount + n })
  else (0, s)

/-- `PARSE_COMPLETE_MSG`: type `'1'` and the length 4. -/
def parseCompleteMsg : List UInt8 := ['1'.toUInt8, 0, 0, 0, 4]

/-- `n` copies of `PARSE_COMPLETE_MSG`, as the `for _ in 0..count` loops append them. -/
def parseCompletes (n : Nat) : List UInt8 :=
  (List.replicate n parseCompleteMsg).flatten

/-- The rebuilding loop, `while pos < response.len()`, from the message at `pos` on: the bytes
it appends to `new_response`, and its counters at the end. A message whose length field or
whole body is not in the chunk is copied with the rest of the chunk, unread. -/
def rebuild (r : Insertions) (pending : Nat) (s : Scan) : List UInt8 → List UInt8 × Scan
  | [] => ([], s)
  | msgType :: rest =>
    if rest.length < 4 then (msgType :: rest, s)
    else
      let msgLen := readBe (rest.take 4)
      if rest.length < msgLen then (msgType :: rest, s)
      else
        let (n, s') := scanMessage r pending s msgType
        let (out, s'') := rebuild r pending s' (rest.drop msgLen)
        (parseCompletes n ++ (msgType :: rest.take msgLen) ++ out, s'')
termination_by bytes => bytes.length
decreasing_by simp

/-- The counting loop of the fast path, `while pos + 5 <= response.len()`. -/
def countMessages (c : ResponseCounts) : List UInt8 → ResponseCounts
  | [] => c
  | msgType :: rest =>
    if rest.length < 4 then c
    else countMessages (c.count msgType) (rest.drop (readBe (rest.take 4)))
termination_by bytes => bytes.length
decreasing_by simp

/-- `Client::reorder_parse_complete_responses` on one chunk: the state after it and the chunk
passed on to the client. With no insertion due in this chunk the chunk is passed on as it is,
its messages only counted. -/
def reorderParseCompleteResponses (st : PreparedState) (response : List UInt8) :
    PreparedState × List UInt8 :=
  if st.batchOperations = [] ∨ st.skippedParses = 0 then (st, response)
  else
    let plan := st.batchOperations.foldl planStep Plan.init
    let r := plan.relevant st.processedResponseCounts
    if r.total + plan.pendingInsertions = 0 then
      ({ st with
        processedResponseCounts :=
          st.processedResponseCounts.add (countMessages ResponseCounts.cleared response) },
        response)
    else
      let (out, s) := rebuild r plan.pendingInsertions Scan.init response
      ({ st with processedResponseCounts := st.processedResponseCounts.add s.counts }, out)

/-- The chunks of one batch's answer as `Client::execute_server_roundtrip` passes them on, each
through the reordering (its own test of the two lists repeats the function's first one). -/
def reorderChunks (st : PreparedState) : List (List UInt8) → List (List UInt8)
  | [] => []
  | chunk :: chunks =>
    (reorderParseCompleteResponses st chunk).2 ::
      reorderChunks (reorderParseCompleteResponses st chunk).1 chunks

/-! ## Messages as frames -/

/-- A backend message: its type byte and its body. -/
structure Frame where
  tag : UInt8
  body : List UInt8
  deriving Repr, DecidableEq

/-- The bytes of a message: type, big-endian length (counting itself, not the type), body. -/
def Frame.bytes (f : Frame) : List UInt8 :=
  f.tag :: (beBytes 4 (f.body.length + 4) ++ f.body)

/-- A message whose length fits its four-byte field. -/
def Frame.WellSized (f : Frame) : Prop :=
  f.body.length + 4 < 2 ^ 32

instance : DecidablePred Frame.WellSized :=
  fun f => inferInstanceAs (Decidable (f.body.length + 4 < 2 ^ 32))

/-- A run of messages, on the wire. -/
def encode (fs : List Frame) : List UInt8 :=
  fs.flatMap Frame.bytes

/-- ParseComplete. -/
def parseComplete : Frame := ⟨'1'.toUInt8, []⟩

@[simp] theorem encode_nil : encode [] = [] := rfl

@[simp] theorem encode_cons (f : Frame) (fs : List Frame) :
    encode (f :: fs) = f.bytes ++ encode fs := rfl

@[simp] theorem encode_append (fs gs : List Frame) : encode (fs ++ gs) = encode fs ++ encode gs :=
  List.flatMap_append

theorem parseCompleteMsg_eq : parseCompleteMsg = parseComplete.bytes := by decide

theorem parseCompletes_eq (n : Nat) : parseCompletes n = encode (List.replicate n parseComplete) := by
  simp [parseCompletes, encode, List.flatMap_def, parseCompleteMsg_eq]

/-- What the loops read at a whole frame: a length field that is there and says how much
follows, all of which is there too. -/
theorem Frame.read_bytes (f : Frame) (hf : f.WellSized) (t : List UInt8) :
    let rest := beBytes 4 (f.body.length + 4) ++ f.body ++ t
    4 ≤ rest.length ∧ readBe (rest.take 4) = f.body.length + 4 ∧
      f.body.length + 4 ≤ rest.length ∧
      f.tag :: rest.take (f.body.length + 4) = f.bytes ∧ rest.drop (f.body.length + 4) = t := by
  intro rest
  have hlen : rest.length = 4 + f.body.length + t.length := by simp [rest]; omega
  have htake : rest.take 4 = beBytes 4 (f.body.length + 4) := by
    simp only [rest, List.append_assoc]
    exact List.take_left' (by simp)
  have hsplit : rest = (beBytes 4 (f.body.length + 4) ++ f.body) ++ t := rfl
  have hfst : (beBytes 4 (f.body.length + 4) ++ f.body).length = f.body.length + 4 := by
    simp; omega
  refine ⟨by omega, ?_, by omega, ?_, ?_⟩
  · rw [htake, readBe_beBytes, Nat.mod_eq_of_lt (show f.body.length + 4 < 256 ^ 4 from hf)]
  · rw [hsplit, List.take_left' hfst]
    rfl
  · rw [hsplit, List.drop_left' hfst]

/-! ## The loops over whole frames -/

/-- The rebuilding loop over frames. -/
def rebuildFrames (r : Insertions) (pending : Nat) (s : Scan) : List Frame → List Frame × Scan
  | [] => ([], s)
  | f :: fs =>
    let (n, s') := scanMessage r pending s f.tag
    let (out, s'') := rebuildFrames r pending s' fs
    (List.replicate n parseComplete ++ f :: out, s'')

section Loops

variable (r : Insertions) (pending : Nat)

/-- One whole frame at the head of the chunk: its insertions, the frame, then the rest. -/
theorem rebuild_frame (s : Scan) (f : Frame) (hf : f.WellSized) (t : List UInt8) :
    rebuild r pending s (f.bytes ++ t) =
      ((parseCompletes (scanMessage r pending s f.tag).1 ++ f.bytes ++
          (rebuild r pending (scanMessage r pending s f.tag).2 t).1),
        (rebuild r pending (scanMessage r pending s f.tag).2 t).2) := by
  obtain ⟨h4, hread, hbody, htake, hdrop⟩ := Frame.read_bytes f hf t
  have hcons : f.bytes ++ t = f.tag :: (beBytes 4 (f.body.length + 4) ++ f.body ++ t) := by
    simp [Frame.bytes]
  rw [hcons, rebuild, if_neg (by omega), hread, if_neg (by omega), htake, hdrop]

/-- **On whole frames the rebuilding loop is the loop over frames**: it copies every frame and
inserts ParseCompletes before some. -/
theorem rebuild_encode (s : Scan) (fs : List Frame) (hfs : ∀ f ∈ fs, f.WellSized) :
    rebuild r pending s (encode fs) =
      (encode (rebuildFrames r pending s fs).1, (rebuildFrames r pending s fs).2) := by
  induction fs generalizing s with
  | nil => simp [rebuild, rebuildFrames]
  | cons f fs ih =>
    rw [encode_cons, rebuild_frame r pending s f (hfs f (by simp)) _,
      ih _ (fun g hg => hfs g (by simp [hg]))]
    simp [rebuildFrames, parseCompletes_eq]

/-- On whole frames the counting loop counts the frames' types. -/
theorem countMessages_encode (c : ResponseCounts) (fs : List Frame) (hfs : ∀ f ∈ fs, f.WellSized) :
    countMessages c (encode fs) = (fs.map Frame.tag).foldl ResponseCounts.count c := by
  induction fs generalizing c with
  | nil => simp [countMessages]
  | cons f fs ih =>
    obtain ⟨h4, hread, -, -, hdrop⟩ := Frame.read_bytes f (hfs f (by simp)) (encode fs)
    have hcons : encode (f :: fs) =
        f.tag :: (beBytes 4 (f.body.length + 4) ++ f.body ++ encode fs) := by
      simp [Frame.bytes]
    rw [hcons, countMessages, if_neg (by omega), hread, hdrop,
      ih _ (fun g hg => hfs g (by simp [hg]))]
    rfl

end Loops

/-- The reordering of one chunk, over its frames. -/
def reorderFrames (st : PreparedState) (fs : List Frame) : PreparedState × List Frame :=
  if st.batchOperations = [] ∨ st.skippedParses = 0 then (st, fs)
  else
    let plan := st.batchOperations.foldl planStep Plan.init
    let r := plan.relevant st.processedResponseCounts
    if r.total + plan.pendingInsertions = 0 then
      ({ st with
        processedResponseCounts := st.processedResponseCounts.add
          ((fs.map Frame.tag).foldl ResponseCounts.count ResponseCounts.cleared) }, fs)
    else
      ({ st with
        processedResponseCounts := st.processedResponseCounts.add
          (rebuildFrames r plan.pendingInsertions Scan.init fs).2.counts },
        (rebuildFrames r plan.pendingInsertions Scan.init fs).1)

/-- The chunks of a batch's answer, over their frames. -/
def reorderFrameChunks (st : PreparedState) : List (List Frame) → List (List Frame)
  | [] => []
  | chunk :: chunks =>
    (reorderFrames st chunk).2 :: reorderFrameChunks (reorderFrames st chunk).1 chunks

/-- **On whole frames the reordering is the reordering of frames.** -/
theorem reorderParseCompleteResponses_encode (st : PreparedState) (fs : List Frame)
    (hfs : ∀ f ∈ fs, f.WellSized) :
    reorderParseCompleteResponses st (encode fs) =
      ((reorderFrames st fs).1, encode (reorderFrames st fs).2) := by
  unfold reorderParseCompleteResponses reorderFrames
  split
  · rfl
  · dsimp only
    split
    · rw [countMessages_encode _ _ hfs]
    · rw [rebuild_encode _ _ _ fs hfs]

theorem reorderChunks_encode (st : PreparedState) (chunks : List (List Frame))
    (hfs : ∀ f ∈ chunks.flatten, f.WellSized) :
    reorderChunks st (chunks.map encode) = (reorderFrameChunks st chunks).map encode := by
  induction chunks generalizing st with
  | nil => rfl
  | cons chunk chunks ih =>
    have hchunk : ∀ f ∈ chunk, f.WellSized := fun f hf => hfs f (by simp [hf])
    have hrest : ∀ f ∈ chunks.flatten, f.WellSized := fun f hf =>
      hfs f (List.mem_append_right _ hf)
    simp only [List.map_cons, reorderChunks, reorderFrameChunks,
      reorderParseCompleteResponses_encode st chunk hchunk, ih _ hrest]

/-- BindComplete. -/
def bindComplete : Frame := ⟨'2'.toUInt8, []⟩

/-- CloseComplete. -/
def closeComplete : Frame := ⟨'3'.toUInt8, []⟩

/-- NoData. -/
def noData : Frame := ⟨'n'.toUInt8, []⟩

/-- CommandComplete with its tag. -/
def commandComplete (tag : List UInt8) : Frame := ⟨'C'.toUInt8, tag⟩

/-- ReadyForQuery with its transaction status. -/
def readyForQuery (status : UInt8) : Frame := ⟨'Z'.toUInt8, [status]⟩

/-- How an Execute ends when it does not fail. -/
inductive Completion where
  | commandComplete (tag : List UInt8)
  | emptyQuery
  | portalSuspended
  deriving Repr, DecidableEq

/-- The message an Execute ends with. -/
def Completion.frame : Completion → Frame
  | .commandComplete tag => Client.commandComplete tag
  | .emptyQuery => ⟨'I'.toUInt8, []⟩
  | .portalSuspended => ⟨'s'.toUInt8, []⟩

/-- What an error-free PostgreSQL answers to one operation of a batch: ParseComplete to a Parse
(sent or not), BindComplete, ParameterDescription then RowDescription or NoData to a Describe
of a statement, RowDescription or NoData to a Describe of a portal, DataRows and a completion
to an Execute, CloseComplete. -/
inductive Reply : BatchOperation → List Frame → Prop where
  | parseSkipped : Reply .parseSkipped [parseComplete]
  | parseSent : Reply .parseSent [parseComplete]
  | bind : Reply .bind [bindComplete]
  | describe (params rows : List UInt8) : Reply .describe [⟨'t'.toUInt8, params⟩, ⟨'T'.toUInt8, rows⟩]
  | describeNoData (params : List UInt8) : Reply .describe [⟨'t'.toUInt8, params⟩, noData]
  | describePortal (rows : List UInt8) : Reply .describePortal [⟨'T'.toUInt8, rows⟩]
  | describePortalNoData : Reply .describePortal [noData]
  | execute (rows : List (List UInt8)) (done : Completion) :
      Reply .execute (rows.map (⟨'D'.toUInt8, ·⟩) ++ [done.frame])
  | close : Reply .close [closeComplete]

/-- The server's answer to the forwarded batch: each operation's reply, none for a skipped Parse,
then ReadyForQuery. -/
def forwardedResponse (ops : List BatchOperation) (replies : List (List Frame)) (status : UInt8) :
    List Frame :=
  (List.zipWith (fun op reply => if op = .parseSkipped then [] else reply) ops replies).flatten ++
    [readyForQuery status]

/-- PostgreSQL's answer to the whole batch, the skipped Parses included. -/
def pgResponse (replies : List (List Frame)) (status : UInt8) : List Frame :=
  replies.flatten ++ [readyForQuery status]

/-- The state a batch starts from: its operations, one skipped-Parse entry per skipped Parse, and
cleared counts. -/
def PreparedState.start (ops : List BatchOperation) : PreparedState :=
  ⟨ops, ops.count .parseSkipped, ResponseCounts.cleared⟩

/-- The reordering simulates PostgreSQL: for every batch and every error-free answer to it, cut
into chunks at frame boundaries in any way, the chunks passed on to the client make up what
PostgreSQL would have answered to the whole batch. -/
def SimulatesPostgres : Prop :=
  ∀ (ops : List BatchOperation) (replies : List (List Frame)) (status : UInt8)
    (chunks : List (List Frame)),
    List.Forall₂ Reply ops replies →
    (∀ f ∈ chunks.flatten, f.WellSized) →
    chunks.flatten = forwardedResponse ops replies status →
    (reorderChunks (PreparedState.start ops) (chunks.map encode)).flatten =
      encode (pgResponse replies status)

/-! ## An Execute that returns no row -/

/-- The batch Bind, Parse of a statement the server holds, Execute, Sync. -/
def zeroRowBatch : List BatchOperation := [.bind, .parseSkipped, .execute]

/-- PostgreSQL's replies to it, the Execute completing with no row. -/
def zeroRowReplies : List (List Frame) := [[bindComplete], [parseComplete], [commandComplete []]]

/-- **An Execute with no row defers the insertion past its completion.** The skipped Parse is
attached to the Execute, whose insertion waits for a DataRow, RowDescription or NoData that
never comes; the ReadyForQuery then flushes it, after the CommandComplete, where PostgreSQL
answers ParseComplete before it. -/
theorem reorder_zero_row_execute :
    reorderChunks (PreparedState.start zeroRowBatch)
        [encode (forwardedResponse zeroRowBatch zeroRowReplies 73)] =
      [encode [bindComplete, commandComplete [], parseComplete, readyForQuery 73]] ∧
    encode [bindComplete, commandComplete [], parseComplete, readyForQuery 73] ≠
      encode (pgResponse zeroRowReplies 73) := by
  have hframes : forwardedResponse zeroRowBatch zeroRowReplies 73 =
      [bindComplete, commandComplete [], readyForQuery 73] := by decide
  have hsized : ∀ f ∈ [[bindComplete, commandComplete [], readyForQuery 73]].flatten,
      f.WellSized := by decide
  refine ⟨?_, by decide⟩
  rw [hframes, show [encode [bindComplete, commandComplete [], readyForQuery 73]] =
    [[bindComplete, commandComplete [], readyForQuery 73]].map encode from rfl,
    reorderChunks_encode _ _ hsized]
  decide

/-- **The reordering does not simulate PostgreSQL**: the batch above, answered in one chunk,
already tells the client something PostgreSQL would not. -/
theorem not_simulatesPostgres : ¬ SimulatesPostgres := by
  intro h
  have hreplies : List.Forall₂ Reply zeroRowBatch zeroRowReplies :=
    .cons .bind (.cons .parseSkipped (.cons (Reply.execute [] (.commandComplete [])) .nil))
  have hsized : ∀ f ∈ [forwardedResponse zeroRowBatch zeroRowReplies 73].flatten, f.WellSized := by
    decide
  have hsim := h zeroRowBatch zeroRowReplies 73 [forwardedResponse zeroRowBatch zeroRowReplies 73]
    hreplies hsized List.flatten_singleton
  obtain ⟨hout, hdiffer⟩ := reorder_zero_row_execute
  rw [List.map_singleton, hout, List.flatten_singleton] at hsim
  exact hdiffer hsim

end PgDoorman.Client
