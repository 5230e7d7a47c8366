import PgDoorman.Basic

/-!
# The StartupMessage: parameter decoder and backend encoder

`parse_params` (`src/messages/protocol.rs`) reads the body of a client's StartupMessage as a
run of C-strings, drops the empty ones, and pairs the rest into a map; `parse_startup` also asks
for a `user` key. `startup` writes the StartupMessage pg_doorman sends to a backend, and
`full_packet_bytes` (`src/config/startup_parameters.rs`) predicts its length.

The decoder reads with `Buf::get_u8`, which panics when no byte remains, and rebuilds each
string one byte to one character (`c as char`), so it is a byte-wise Latin-1 reading of what
the encoder wrote as UTF-8.

## Main definitions

* `parseParamsLoop`, `parseParamsStrings`: the two loops of `parse_params`
* `parseParams`, `parseStartup`: the decoders
* `packetAndBodyBytes`, `fullPacketBytes`, `startup`: the encoder and its length

## Main results

* `parseStartup_eq_panic_iff`: the decoder panics exactly on a non-empty body whose last byte
  is not NUL
* `parseStartup_unterminated_panics`: one such body
* `startup_roundTrip`: the bytes `startup` writes have the predicted length and prefix, and
  decode to the parameters written, read byte-wise, when no string is empty
* `startup_empty_values_shift_pairs`: empty values shift the pairing, and a non-ASCII string
  comes back as its bytes
-/

namespace PgDoorman.Messages

open Wire

/-! ## The decoder -/

/-- The end of a C-string: `buf.push(tmp.clone())` unless `tmp` is empty. -/
def flush (buf : List String) (tmp : List Char) : List String :=
  if tmp.isEmpty then buf else buf ++ [String.ofList tmp]

/-- The two loops of `parse_params`, from the byte `c` just read and the bytes after it;
`tmp` holds the characters of the C-string being read. At a NUL the string is flushed and the
outer `while bytes.has_remaining()` reads on; otherwise the inner loop pushes `c as char` and
reads the next byte, and `none` is the panic of `get_u8` when there is none. -/
def parseParamsLoop (buf : List String) (tmp : List Char) (c : UInt8) :
    List UInt8 → Option (List String)
  | [] => if c = 0 then some (flush buf tmp) else none
  | c' :: bytes =>
    if c = 0 then parseParamsLoop (flush buf tmp) [] c' bytes
    else parseParamsLoop buf (tmp ++ [latin1Char c]) c' bytes

/-- The non-empty C-strings `parse_params` collects into `buf`, or `none` for a panic. -/
def parseParamsStrings : List UInt8 → Option (List String)
  | [] => some []
  | c :: bytes => parseParamsLoop [] [] c bytes

/-- The pairing loop: `result.insert(buf[i], buf[i + 1])` for `i = 0, 2, 4, ...`. -/
def insertPairs : StrMap → List String → StrMap
  | m, name :: value :: rest => insertPairs (m.insert name value) rest
  | m, _ => m

/-- The text of the `ProtocolSyncError` for an odd or too short parameter list. -/
def parseParamsMessage (n : Nat) : String :=
  "Invalid client startup message: Expected key-value pairs, but received " ++ toString n ++
    " parameters"

/-- `parse_params`: the C-strings of the body, paired into a map. -/
def parseParams (bytes : List UInt8) : Outcome Error StrMap :=
  match parseParamsStrings bytes with
  | none => .panic
  | some buf =>
    if buf.length % 2 ≠ 0 ∨ buf.length < 2 then
      .err (.protocolSyncError (parseParamsMessage buf.length))
    else .ok (insertPairs StrMap.empty buf)

/-- `parse_startup`: `parse_params`, and at least a `user` key. -/
def parseStartup (bytes : List UInt8) : Outcome Error StrMap :=
  match parseParams bytes with
  | .ok result => if (result "user").isSome then .ok result else .err .clientBadStartup
  | .err e => .err e
  | .panic => .panic

@[simp] theorem parseParamsLoop_zero_nil (buf : List String) (tmp : List Char) :
    parseParamsLoop buf tmp 0 [] = some (flush buf tmp) := rfl

@[simp] theorem parseParamsLoop_zero_cons (buf : List String) (tmp : List Char) (c : UInt8)
    (bytes : List UInt8) :
    parseParamsLoop buf tmp 0 (c :: bytes) = parseParamsLoop (flush buf tmp) [] c bytes := rfl

theorem parseParamsLoop_ne_zero_cons (buf : List String) (tmp : List Char) {c : UInt8}
    (hc : c ≠ 0) (c' : UInt8) (bytes : List UInt8) :
    parseParamsLoop buf tmp c (c' :: bytes) =
      parseParamsLoop buf (tmp ++ [latin1Char c]) c' bytes := by
  simp [parseParamsLoop, hc]

@[simp] theorem flush_nil (buf : List String) : flush buf [] = buf := rfl

/-- Reading starts as if a NUL had just been read. -/
theorem parseParamsStrings_eq_loop (bytes : List UInt8) :
    parseParamsStrings bytes = parseParamsLoop [] [] 0 bytes := by
  cases bytes <;> rfl

/-! ## When the decoder panics -/

/-- The loops panic exactly when the last byte they read is not NUL. -/
theorem parseParamsLoop_eq_none_iff (buf : List String) (tmp : List Char) (c : UInt8)
    (bytes : List UInt8) :
    parseParamsLoop buf tmp c bytes = none ↔ (c :: bytes).getLast (List.cons_ne_nil c bytes) ≠ 0 := by
  induction bytes generalizing buf tmp c with
  | nil => by_cases hc : c = 0 <;> simp [parseParamsLoop, hc]
  | cons c' bytes ih =>
    -- either branch reads on from `c'`, and the last byte of `c :: c' :: bytes` is that of `c' :: bytes`
    rw [List.getLast_cons (List.cons_ne_nil c' bytes)]
    by_cases hc : c = 0
    · subst hc
      rw [parseParamsLoop_zero_cons, ih]
    · rw [parseParamsLoop_ne_zero_cons buf tmp hc, ih]

theorem parseParamsStrings_eq_none_iff (bytes : List UInt8) :
    parseParamsStrings bytes = none ↔ ∃ c, bytes.getLast? = some c ∧ c ≠ 0 := by
  cases bytes with
  | nil => simp [parseParamsStrings]
  | cons c bytes =>
    rw [parseParamsStrings, parseParamsLoop_eq_none_iff, List.getLast?_eq_some_getLast (List.cons_ne_nil c bytes)]
    simp

theorem parseParams_eq_panic_iff (bytes : List UInt8) :
    parseParams bytes = .panic ↔ ∃ c, bytes.getLast? = some c ∧ c ≠ 0 := by
  rw [← parseParamsStrings_eq_none_iff, parseParams]
  cases parseParamsStrings bytes with
  | none => simp
  | some buf =>
    dsimp only
    split_ifs <;> simp

/-- **`parse_startup` panics exactly on a body that does not end in NUL**: every other body
gives `Ok` or `Err`. -/
theorem parseStartup_eq_panic_iff (bytes : List UInt8) :
    parseStartup bytes = .panic ↔ ∃ c, bytes.getLast? = some c ∧ c ≠ 0 := by
  rw [← parseParams_eq_panic_iff, parseStartup]
  cases parseParams bytes with
  | ok result =>
    dsimp only
    split_ifs <;> simp
  | err e => simp
  | panic => simp

/-- The one-byte body `a`: its only parameter string has no NUL, and `get_u8` runs past the
end of the buffer. -/
theorem parseStartup_unterminated_panics : parseStartup [97] = .panic :=
  (parseStartup_eq_panic_iff [97]).mpr ⟨97, rfl, by decide⟩

/-! ## Reading a run of C-strings -/

/-- The loops read one NUL-free C-string, from its first byte `c`, into `tmp`. -/
theorem parseParamsLoop_cstring (buf : List String) (tmp : List Char) {c : UInt8} (hc : c ≠ 0)
    {s : List UInt8} (hs : (0 : UInt8) ∉ s) (rest : List UInt8) :
    parseParamsLoop buf tmp c (s ++ 0 :: rest) = parseParamsLoop buf (tmp ++ latin1 (c :: s)) 0 rest := by
  induction s generalizing tmp c with
  | nil => simp [parseParamsLoop_ne_zero_cons buf tmp hc, latin1]
  | cons d s ih =>
    have hd : d ≠ 0 := fun h => hs (h ▸ List.mem_cons_self)
    rw [List.cons_append, parseParamsLoop_ne_zero_cons buf tmp hc,
      ih _ hd (fun h => hs (List.mem_cons_of_mem d h))]
    simp [latin1]

/-- A run of non-empty NUL-free C-strings and the list terminator: every string is kept, read
byte-wise, and the terminator's empty string is dropped. -/
theorem parseParamsLoop_cstrings (buf : List String) (tmp : List Char) (ss : List (List UInt8))
    (hss : ∀ s ∈ ss, s ≠ [] ∧ (0 : UInt8) ∉ s) :
    parseParamsLoop buf tmp 0 (ss.flatMap (· ++ [0]) ++ [0]) =
      some (flush buf tmp ++ ss.map fun s => String.ofList (latin1 s)) := by
  induction ss generalizing buf tmp with
  | nil => simp
  | cons s ss ih =>
    obtain ⟨hne, hs⟩ := hss s List.mem_cons_self
    obtain ⟨c, t, rfl⟩ := List.exists_cons_of_ne_nil hne
    have hc : c ≠ 0 := fun h => hs (h ▸ List.mem_cons_self)
    have ht : (0 : UInt8) ∉ t := fun h => hs (List.mem_cons_of_mem c h)
    have hbytes : ((c :: t) :: ss).flatMap (· ++ [0]) ++ [0] =
        c :: (t ++ 0 :: (ss.flatMap (· ++ [0]) ++ [0])) := by
      simp
    rw [hbytes, parseParamsLoop_zero_cons, parseParamsLoop_cstring _ _ hc ht,
      ih _ _ (fun s hs' => hss s (List.mem_cons_of_mem _ hs'))]
    simp [flush, latin1]

theorem parseParamsStrings_cstrings (ss : List (List UInt8))
    (hss : ∀ s ∈ ss, s ≠ [] ∧ (0 : UInt8) ∉ s) :
    parseParamsStrings (ss.flatMap (· ++ [0]) ++ [0]) =
      some (ss.map fun s => String.ofList (latin1 s)) := by
  rw [parseParamsStrings_eq_loop, parseParamsLoop_cstrings [] [] ss hss]
  rfl

/-- Pairing inserts each key with its value; a later pair wins. -/
theorem insertPairs_flatMap (m : StrMap) (pairs : List (String × String)) :
    insertPairs m (pairs.flatMap fun p => [p.1, p.2]) = fun k => (pairs.reverse.lookup k).or (m k) := by
  induction pairs generalizing m with
  | nil => rfl
  | cons p pairs ih =>
    obtain ⟨a, b⟩ := p
    funext k
    rw [List.flatMap_cons, List.cons_append, List.cons_append, List.nil_append, insertPairs, ih]
    by_cases hk : k = a
    · subst hk
      cases List.lookup k pairs.reverse <;> simp [List.lookup_append]
    · simp [List.lookup_append, hk]

/-! ## The encoder -/

/-- A C-string: the bytes of `s` and a NUL (the literals `b"user\0"`, ...). -/
def cstr (s : String) : List UInt8 :=
  utf8Bytes s ++ [0]

/-- The application name `startup` writes: an `application_name` extra wins over the
default. -/
def effectiveAppName (applicationName : String) (extraParams : BTreeMap) : String :=
  (extraParams.get "application_name").getD applicationName

/-- One pair of `packet_and_body_bytes`' loop: `body` counts every pair, `packet` every pair
but `application_name`. -/
def packetStep (acc : Nat × Nat) (kv : String × String) : Nat × Nat :=
  let size := (utf8Bytes kv.1).length + 1 + (utf8Bytes kv.2).length + 1
  if kv.1 = "application_name" then (acc.1, acc.2 + size) else (acc.1 + size, acc.2 + size)

/-- `packet_and_body_bytes`: the length of the whole StartupMessage, and the bytes of the
operator map. -/
def packetAndBodyBytes (user database applicationName : String) (extras : BTreeMap) : Nat × Nat :=
  let packet := 4 + 4
  let packet := packet + ((cstr "user").length + (utf8Bytes user).length + 1)
  let packet := packet + ((cstr "database").length + (utf8Bytes database).length + 1)
  let packet := packet + ((cstr "application_name").length +
    (utf8Bytes (effectiveAppName applicationName extras)).length + 1)
  let acc := extras.entries.foldl packetStep (packet, 0)
  (acc.1 + 1, acc.2)

/-- `full_packet_bytes`. -/
def fullPacketBytes (user database applicationName : String) (extras : BTreeMap) : Nat :=
  (packetAndBodyBytes user database applicationName extras).1

/-- One extra pair as `startup` writes it; `application_name` was already written. -/
def extraBytes (kv : String × String) : List UInt8 :=
  if kv.1 = "application_name" then [] else utf8Bytes kv.1 ++ [0] ++ utf8Bytes kv.2 ++ [0]

/-- `startup`: the bytes of the StartupMessage written to the backend. The length prefix is
`total_size as i32`, whose big-endian bytes are the low four bytes of `total_size`. -/
def startup (user database applicationName : String) (extraParams : BTreeMap) : List UInt8 :=
  let totalSize := fullPacketBytes user database applicationName extraParams
  beBytes 4 totalSize ++ beBytes 4 196608 ++
    cstr "user" ++ utf8Bytes user ++ [0] ++
    cstr "application_name" ++ utf8Bytes (effectiveAppName applicationName extraParams) ++ [0] ++
    cstr "database" ++ utf8Bytes database ++ [0] ++
    extraParams.entries.flatMap extraBytes ++
    [0]

/-- The extra pairs `startup` writes. -/
def extraPairs (extraParams : BTreeMap) : List (String × String) :=
  extraParams.entries.filter fun kv => kv.1 ≠ "application_name"

/-! ## Decoding what the encoder wrote -/

/-- The strings `startup` writes as C-strings after its two header words. -/
def startupStrings (user database applicationName : String) (extraParams : BTreeMap) :
    List String :=
  ["user", user, "application_name", effectiveAppName applicationName extraParams,
    "database", database] ++ (extraPairs extraParams).flatMap fun kv => [kv.1, kv.2]

/-- A string read back byte-wise from its UTF-8 bytes, as `parse_params` reads it. -/
def reading (s : String) : String :=
  String.ofList (latin1 (utf8Bytes s))

/-- The map a StartupMessage of these parameters stands for: a key takes the value of its last
extra pair, else that of the managed key of that name. -/
def startupParams (user database applicationName : String) (extras : List (String × String)) :
    StrMap :=
  fun k => (extras.reverse.lookup k).or
    ([("database", database), ("application_name", applicationName), ("user", user)].lookup k)

theorem flatMap_extraBytes (entries : List (String × String)) :
    entries.flatMap extraBytes =
      ((entries.filter fun kv => kv.1 ≠ "application_name").flatMap fun kv => [kv.1, kv.2]).flatMap
        fun s => utf8Bytes s ++ [0] := by
  induction entries with
  | nil => rfl
  | cons kv entries ih =>
    by_cases hk : kv.1 = "application_name" <;> simp [extraBytes, hk, ih]

/-- `startup` writes the length prefix, the protocol version, and the C-strings of
`startupStrings` followed by the list terminator. -/
theorem startup_eq (user database applicationName : String) (extraParams : BTreeMap) :
    startup user database applicationName extraParams =
      (beBytes 4 (fullPacketBytes user database applicationName extraParams) ++ beBytes 4 196608) ++
        (((startupStrings user database applicationName extraParams).map utf8Bytes).flatMap
          (· ++ [0]) ++ [0]) := by
  simp only [startup, startupStrings, extraPairs, cstr, flatMap_extraBytes, List.map_append,
    List.flatMap_append, List.flatMap_map, List.append_assoc]
  simp

theorem foldl_packetStep (entries : List (String × String)) (acc : Nat × Nat) :
    (entries.foldl packetStep acc).1 = acc.1 + (entries.flatMap extraBytes).length := by
  induction entries generalizing acc with
  | nil => rfl
  | cons kv entries ih =>
    rw [List.foldl_cons, ih, List.flatMap_cons, List.length_append]
    by_cases hk : kv.1 = "application_name"
    · simp [packetStep, extraBytes, hk]
    · simp [packetStep, extraBytes, hk]
      omega

/-- The length `full_packet_bytes` predicts is the number of bytes `startup` writes. -/
theorem length_startup (user database applicationName : String) (extraParams : BTreeMap) :
    (startup user database applicationName extraParams).length =
      fullPacketBytes user database applicationName extraParams := by
  simp only [fullPacketBytes, packetAndBodyBytes, foldl_packetStep, startup, List.length_append,
    length_beBytes]
  simp only [List.length_cons, List.length_nil]
  omega

/-- The length prefix is the big-endian encoding of `full_packet_bytes`. -/
theorem take_four_startup (user database applicationName : String) (extraParams : BTreeMap) :
    (startup user database applicationName extraParams).take 4 =
      beBytes 4 (fullPacketBytes user database applicationName extraParams) := by
  rw [startup_eq, List.append_assoc, List.take_left' (length_beBytes 4 _)]

theorem effectiveAppName_eq_or_mem (applicationName : String) (extraParams : BTreeMap) :
    effectiveAppName applicationName extraParams = applicationName ∨
      ∃ kv ∈ extraParams.entries, kv.2 = effectiveAppName applicationName extraParams := by
  unfold effectiveAppName BTreeMap.get
  cases h : extraParams.entries.lookup "application_name" with
  | none => exact .inl rfl
  | some v =>
    obtain ⟨l₁, l₂, hl, -⟩ := List.lookup_eq_some_iff.mp h
    exact .inr ⟨("application_name", v), by simp [hl], rfl⟩

theorem mem_startupStrings {user database applicationName : String} {extraParams : BTreeMap}
    {s : String} (hs : s ∈ startupStrings user database applicationName extraParams) :
    s ∈ ["user", user, "application_name", effectiveAppName applicationName extraParams,
      "database", database] ∨ ∃ kv ∈ extraParams.entries, s = kv.1 ∨ s = kv.2 := by
  simp only [startupStrings, extraPairs, List.mem_append, List.mem_flatMap, List.mem_filter,
    List.mem_cons, List.not_mem_nil, or_false] at hs
  rcases hs with h | ⟨kv, ⟨hkv, -⟩, h⟩
  · exact .inl (by simpa using h)
  · exact .inr ⟨kv, hkv, h⟩

theorem length_startupStrings (user database applicationName : String) (extraParams : BTreeMap) :
    (startupStrings user database applicationName extraParams).length =
      6 + 2 * (extraPairs extraParams).length := by
  simp only [startupStrings, List.length_append, List.length_flatMap, List.length_cons,
    List.length_nil]
  induction (extraPairs extraParams) with
  | nil => rfl
  | cons kv pairs ih =>
    simp only [List.map_cons, List.sum_cons, List.length_cons] at ih ⊢
    omega

theorem startupStrings_map_reading (user database applicationName : String)
    (extraParams : BTreeMap) :
    (startupStrings user database applicationName extraParams).map reading =
      ([("user", reading user), ("application_name", reading (effectiveAppName applicationName extraParams)),
        ("database", reading database)] ++
        (extraPairs extraParams).map fun kv => (reading kv.1, reading kv.2)).flatMap
          fun p => [p.1, p.2] := by
  have hu : reading "user" = "user" := latin1_utf8Bytes (by simp [IsAscii])
  have ha : reading "application_name" = "application_name" := latin1_utf8Bytes (by simp [IsAscii])
  have hd : reading "database" = "database" := latin1_utf8Bytes (by simp [IsAscii])
  simp [startupStrings, List.flatMap_map, List.map_flatMap, hu, ha, hd]

/-- When every string `startup` writes is non-empty and NUL-free, `parse_params` decodes its
body to the map `startupParams` of those strings read byte-wise. -/
theorem parseParams_startup (user database applicationName : String) (extraParams : BTreeMap)
    (hvalid : ∀ s ∈ startupStrings user database applicationName extraParams,
      s ≠ "" ∧ '\x00' ∉ s.toList) :
    parseParams ((startup user database applicationName extraParams).drop 8) =
      .ok (startupParams (reading user) (reading database)
        (reading (effectiveAppName applicationName extraParams))
        ((extraPairs extraParams).map fun kv => (reading kv.1, reading kv.2))) := by
  rw [startup_eq, List.drop_left' (by simp)]
  have hbytes : ∀ b ∈ (startupStrings user database applicationName extraParams).map utf8Bytes,
      b ≠ [] ∧ (0 : UInt8) ∉ b := by
    intro b hb
    obtain ⟨s, hs, rfl⟩ := List.mem_map.mp hb
    exact ⟨fun h => (hvalid s hs).1 ((utf8Bytes_eq_nil_iff s).mp h),
      zero_not_mem_utf8Bytes (hvalid s hs).2⟩
  have hreading : ((startupStrings user database applicationName extraParams).map utf8Bytes).map
      (fun s => String.ofList (latin1 s)) =
        (startupStrings user database applicationName extraParams).map reading := by
    rw [List.map_map]
    rfl
  have hlen := length_startupStrings user database applicationName extraParams
  -- the strings come in pairs, at least the three managed ones
  have hpairs : ¬ ((startupStrings user database applicationName extraParams).length % 2 ≠ 0 ∨
      (startupStrings user database applicationName extraParams).length < 2) := by
    omega
  rw [parseParams, parseParamsStrings_cstrings _ hbytes, hreading]
  simp only [List.length_map, if_neg hpairs]
  rw [startupStrings_map_reading, insertPairs_flatMap]
  congr 1
  funext k
  simp [startupParams, List.lookup_append]

/-- **Decoding inverts encoding, up to the byte-wise reading, when no value is empty.** The
bytes `startup` writes start with `full_packet_bytes` as a big-endian `i32` and have that many
bytes; `parse_params` reads the body after the 8-byte header back to the map of `user`,
`database`, the effective `application_name` and the extra pairs, each string read one byte to
one character (so exactly the strings written when they are ASCII). -/
theorem startup_roundTrip (user database applicationName : String) (extraParams : BTreeMap)
    (hnul : '\x00' ∉ user.toList ∧ '\x00' ∉ database.toList ∧ '\x00' ∉ applicationName.toList ∧
      ∀ kv ∈ extraParams.entries, '\x00' ∉ kv.1.toList ∧ '\x00' ∉ kv.2.toList)
    (hkeys : ∀ kv ∈ extraParams.entries, kv.1 ≠ "")
    (hvalues : user ≠ "" ∧ database ≠ "" ∧ effectiveAppName applicationName extraParams ≠ "" ∧
      ∀ kv ∈ extraParams.entries, kv.2 ≠ "") :
    (startup user database applicationName extraParams).take 4 =
        beBytes 4 (fullPacketBytes user database applicationName extraParams) ∧
      (startup user database applicationName extraParams).length =
        fullPacketBytes user database applicationName extraParams ∧
      parseParams ((startup user database applicationName extraParams).drop 8) =
        .ok (startupParams (reading user) (reading database)
          (reading (effectiveAppName applicationName extraParams))
          ((extraPairs extraParams).map fun kv => (reading kv.1, reading kv.2))) := by
  obtain ⟨hu, hd, ha, hextra⟩ := hnul
  obtain ⟨hu', hd', ha', hvalue⟩ := hvalues
  have happ : '\x00' ∉ (effectiveAppName applicationName extraParams).toList := by
    rcases effectiveAppName_eq_or_mem applicationName extraParams with h | ⟨kv, hkv, h⟩
    · rw [h]
      exact ha
    · rw [← h]
      exact (hextra kv hkv).2
  refine ⟨take_four_startup .., length_startup .., parseParams_startup _ _ _ _ ?_⟩
  intro s hs
  rcases mem_startupStrings hs with h | ⟨kv, hkv, rfl | rfl⟩
  · -- the three managed keys and their values
    simp only [List.mem_cons, List.not_mem_nil, or_false] at h
    rcases h with rfl | rfl | rfl | rfl | rfl | rfl
    · exact ⟨by decide, by decide⟩
    · exact ⟨hu', hu⟩
    · exact ⟨by decide, by decide⟩
    · exact ⟨ha', happ⟩
    · exact ⟨by decide, by decide⟩
    · exact ⟨hd', hd⟩
  · exact ⟨hkeys kv hkv, (hextra kv hkv).1⟩
  · exact ⟨hvalue kv hkv, (hextra kv hkv).2⟩

/-- The StartupMessage of the unit tests of `full_packet_bytes`: `usr1` on `db01` with one
extra parameter. -/
theorem startup_roundTrip_plan_cache_mode :
    let extras : BTreeMap := ⟨[("plan_cache_mode", "force_custom_plan")], by simp⟩
    (startup "usr1" "db01" "pg_doorman" extras).take 4 =
        beBytes 4 (fullPacketBytes "usr1" "db01" "pg_doorman" extras) ∧
      (startup "usr1" "db01" "pg_doorman" extras).length =
        fullPacketBytes "usr1" "db01" "pg_doorman" extras ∧
      parseParams ((startup "usr1" "db01" "pg_doorman" extras).drop 8) =
        .ok (startupParams (reading "usr1") (reading "db01")
          (reading (effectiveAppName "pg_doorman" extras))
          ((extraPairs extras).map fun kv => (reading kv.1, reading kv.2))) :=
  startup_roundTrip "usr1" "db01" "pg_doorman" _
    ⟨by decide, by decide, by decide, by simp⟩ (by simp)
    ⟨by decide, by decide, by decide, by simp⟩

/-- **Empty values shift the pairs, and non-ASCII text is misread.** The extras `a = ''` and
`b = ''` are written as two empty C-strings, which `parse_params` drops: eight strings are left,
paired as `user`, `application_name`, `database` and `a ↦ b`, and `b` is gone. A user `é`, two
bytes in UTF-8, is read back as the two characters `Ã©`. -/
theorem startup_empty_values_shift_pairs :
    (∃ m, parseParams ((startup "u" "d" "p" ⟨[("a", ""), ("b", "")], by decide⟩).drop 8) = .ok m ∧
        m "a" = some "b" ∧ m "b" = none) ∧
      ∃ m, parseParams ((startup "\u00E9" "d" "p" BTreeMap.empty).drop 8) = .ok m ∧
        m "user" = some "\u00C3\u00A9" := by
  refine ⟨⟨_, rfl, ?_, ?_⟩, _, rfl, ?_⟩ <;> decide

end PgDoorman.Messages
