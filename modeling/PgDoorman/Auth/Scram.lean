import PgDoorman.Basic
import PgDoorman.Wire.Cursor
import PgDoorman.Wire.Str
import PgDoorman.Auth.Hba

/-!
# SCRAM-SHA-256

`src/auth/scram.rs` is the server side of SCRAM-SHA-256 for clients of the pooler, and
`src/auth/scram_client.rs` the client side the pooler speaks to a backend. The server reads the
client's messages from `String::from_utf8_lossy` of the PasswordMessage bodies and cuts them at
byte offsets and at commas, as Rust `str` does (`Wire.Str`). The first message's body holds the
mechanism's name, a NUL and the message's length as four bytes before the message; the parser
skips the first 18 bytes of the decoded text, so a length byte that is no ASCII, which the lossy
decoding turns into a three-byte replacement character, moves the message.

Base64, SHA-256 and HMAC are the standard functions of their crates; the model takes them as a
`ScramCrypto`.

## Main definitions

* `ScramSha256.fromNonce`, `ScramSha256.message`: the client's first message
* `saslInitialResponseBody`: the body of the PasswordMessage that carries it
* `parseClientFirstMessage`, `parseClientFinalMessage`: the server's parsers
* `prepareServerFirstResponse`, `prepareServerFinalMessage`: the server's replies

## Main results

* `parseClientFirstMessage_short_nonce`: a first message of up to 127 bytes is read back
* `scram_long_nonce_rejected`: one of 128 to 255 bytes is refused with `password length`
* `scram_short_nonce_field_panics`: a fourth field of fewer than two bytes panics
* `parseClientFinalMessage_ne_panic`: the final message's parser never panics
* `prepareServerFinalMessage_ok`: the final check passes only for the first message's channel
  binding, the server's nonce and a client key that hashes to the stored key
* `prepareServerFinalMessage_clientKey`: the key kept for passthrough is the client's key
-/

namespace PgDoorman.Auth

open Wire

/-- What the exchange takes of the `base64`, `sha2` and `hmac` crates. -/
structure ScramCrypto where
  /-- `general_purpose::STANDARD.encode`. -/
  encode : List UInt8 → List Char
  /-- `general_purpose::STANDARD.decode`. -/
  decode : List Char → Option (List UInt8)
  /-- SHA-256. -/
  sha256 : List UInt8 → List UInt8
  /-- HMAC-SHA-256 under a key. -/
  hmac : List UInt8 → List UInt8 → List UInt8

/-! ## The client's first message -/

/-- The fields of `ScramSha256` that `from_nonce` sets and `message` reads. -/
structure ScramSha256 where
  password : List Char
  nonce : List Char
  message : List UInt8

/-- `ScramSha256::from_nonce`: the first message is `n,,n=,r=` and the nonce. -/
def ScramSha256.fromNonce (password nonce : List Char) : ScramSha256 :=
  ⟨password, nonce, strBytes ("n,,n=,r=".toList ++ nonce)⟩

/-- The body `read_password` returns of the SASLInitialResponse a backend connection writes
(`server/authentication.rs`): `SCRAM-SHA-256`, a NUL, the response's length `as i32`, and the
response. -/
def saslInitialResponseBody (response : List UInt8) : List UInt8 :=
  strBytes scramSha256Prefix.toList ++ [0] ++ beBytes 4 response.length ++ response

/-- A nonce character of `ScramSha256::new`: printable ASCII other than the comma. -/
def IsNonceChar (c : Char) : Prop :=
  0x21 ≤ c.toNat ∧ c.toNat ≤ 0x7E ∧ c ≠ ','

instance (c : Char) : Decidable (IsNonceChar c) :=
  inferInstanceAs (Decidable (_ ∧ _ ∧ _))

/-! ## The server's parsers -/

/-- `ClientFirstMessage`. -/
structure ClientFirstMessage where
  authcid : List Char
  authzid : Option (List Char)
  nonce : List Char
  gs2Flag : Char
  clientFirstBare : List Char
  deriving Repr, DecidableEq

/-- `parse_part!`: the next part of a message, which must begin with the two bytes of `key`;
what follows them. -/
def parsePart (part : Option (List Char)) (key : List Char) : Outcome Error (List Char) :=
  match part with
  | some part =>
    if byteLen part < 2 then .err (.scramClientError "unexpected len")
    else if (strBytes part).take 2 = strBytes key then sliceFrom part 2
    else .err (.scramClientError "unexpected field")
  | none => .err (.scramClientError "unexpected field")

/-- The channel binding part of `parse_client_first_message`: the flag `n` or `y` alone. -/
def parseChannelBinding (part : Option (List Char)) : Outcome Error Char :=
  match part with
  | some part =>
    match part.head? with
    | some cb =>
      if cb = 'p' then .err (.scramServerError "unsupported channel binding")
      else if (cb ≠ 'n' ∧ cb ≠ 'y') ∨ byteLen part > 1 then
        .err (.scramServerError "unsupported channel binding")
      else .ok cb
    | none => .err (.scramServerError "unsupported channel binding")
  | none => .err (.scramServerError "unsupported channel binding")

/-- The authorization identity part of `parse_client_first_message`: empty, or `a=` and the
identity. -/
def parseAuthzid (part : Option (List Char)) : Outcome Error (Option (List Char)) :=
  match part with
  | some part =>
    if part.isEmpty then .ok none
    else if byteLen part < 2 ∨ (strBytes part).take 2 ≠ strBytes "a=".toList then
      .err (.scramClientError "unexpected authzid")
    else some <$> sliceFrom part 2
  | none => .err (.scramClientError "unexpected authzid")

/-- The nonce part of `parse_client_first_message`: `r=` and the nonce. The match guard slices
the first two bytes without a check that there are two. -/
def parseNonce (part : Option (List Char)) : Outcome Error (List Char) :=
  match part with
  | some part =>
    if byteLen part < 2 then .panic
    else if (strBytes part).take 2 = strBytes "r=".toList then sliceFrom part 2
    else .err (.scramClientError "unexpected nonce")
  | none => .err (.scramClientError "unexpected nonce")

/-- `parse_client_first_message`: the text after the mechanism's name, its NUL and the four
length bytes, cut at commas into the channel binding flag, the authorization identity, the user
and the nonce; the bare message is what follows the first two parts. -/
def parseClientFirstMessage (password : List Char) : Outcome Error ClientFirstMessage := do
  let data ← match getFrom password (byteLen scramSha256Prefix.toList + 4 + 1) with
    | some sub => pure sub
    | none => throw (.scramClientError "password length")
  let parts := data.splitOn ','
  let gs2Flag ← parseChannelBinding parts[0]?
  let authzid ← parseAuthzid parts[1]?
  let authcid ← parsePart parts[2]? "n=".toList
  let nonce ← parseNonce parts[3]?
  pure ⟨authcid, authzid, nonce, gs2Flag, [','].intercalate (parts.drop 2)⟩

/-- `ClientFinalMessage`. -/
structure ClientFinalMessage where
  channelBinding : List UInt8
  nonce : List Char
  proof : List UInt8
  clientFinalWithoutProof : List Char
  deriving Repr, DecidableEq

/-- The value of a field `key=value`, or the error `msg`. -/
def fieldValue (field key : List Char) (msg : String) : Outcome Error (List Char) :=
  match splitOnce '=' field with
  | some (k, v) => if k ≠ key then .err (.scramClientError msg) else .ok v
  | none => .err (.scramClientError msg)

/-- `parse_client_final_message`: the channel binding before the first comma, the nonce after
it, the proof after the last comma, and the text before the last comma. -/
def parseClientFinalMessage (crypto : ScramCrypto) (data : List Char) :
    Outcome Error ClientFinalMessage := do
  let (channelBinding, noncePprofC2wop) ← match splitOnce ',' data with
    | some (key, value) =>
      match splitOnce '=' key with
      | some (secondKey, secondValue) =>
        if secondKey ≠ "c".toList then throw (.scramClientError "key is not c")
        else pure (secondValue, value)
      | none => throw (.scramClientError "compare channel binding settings")
    | none => throw (.scramClientError "compare channel binding settings")
  let nonce ← match splitOnce ',' noncePprofC2wop with
    | some (key, _) => fieldValue key "r".toList "parse nonce"
    | none => throw (.scramClientError "parse nonce")
  let proof ← match rsplitOnce ',' data with
    | some (_, value) => fieldValue value "p".toList "parse proof"
    | none => throw (.scramClientError "parse proof")
  -- `data.rfind(',').unwrap()`
  let c2wop ← match rfind ',' data with
    | some i =>
      match getTo data i with
      | some sub => pure sub
      | none => throw (.scramClientError "parse proof")
    | none => Outcome.panic
  let channelBinding ← match crypto.decode channelBinding with
    | some bytes => pure bytes
    | none => throw (.scramClientError "decode channel binding")
  let proof ← match crypto.decode proof with
    | some bytes => pure bytes
    | none => throw (.scramClientError "decode channel proof")
  pure ⟨channelBinding, nonce, proof, c2wop⟩

/-! ## The server's replies -/

/-- `ServerFirstMessage`. -/
structure ServerFirstMessage where
  nonce : List Char
  clientFirstBare : List Char
  serverFirstBare : List Char

/-- `prepare_server_first_response`: the client's nonce with the base64 of the 18 random bytes
`key`, the salt and the iteration count. -/
def prepareServerFirstResponse (crypto : ScramCrypto) (key : List UInt8)
    (clientNonce clientFirstBare serverSalt : List Char) (serverIteration : Int) :
    ServerFirstMessage :=
  let nonce := clientNonce ++ crypto.encode key
  ⟨nonce, clientFirstBare,
    "r=".toList ++ nonce ++ ",s=".toList ++ serverSalt ++ ",i=".toList ++
      (toString serverIteration).toList⟩

/-- The NUL after the mechanism's name and the three high bytes of a length under 256. -/
theorem saslInitialResponseBody_of_lt {response : List UInt8} (h : response.length < 256) :
    saslInitialResponseBody response =
      strBytes scramSha256Prefix.toList ++ 0 :: 0 :: 0 :: 0 :: UInt8.ofNat response.length ::
        response := by
  rw [saslInitialResponseBody, beBytes_four_of_lt h]
  simp only [List.append_assoc, List.cons_append, List.nil_append]

theorem utf8Lossy_saslInitialResponseBody {response : List UInt8} (h : response.length < 256) :
    utf8Lossy (saslInitialResponseBody response) =
      scramSha256Prefix.toList ++ List.replicate 4 (Char.ofNat 0) ++
        utf8Lossy (UInt8.ofNat response.length :: response) := by
  have hnul : (0 : UInt8).toNat < 0x80 := by decide
  rw [saslInitialResponseBody_of_lt h, utf8Lossy_strBytes_append, utf8Lossy_one hnul,
    utf8Lossy_one hnul, utf8Lossy_one hnul, utf8Lossy_one hnul, List.append_assoc]
  rfl

theorem byteLen_saslHeader :
    byteLen (scramSha256Prefix.toList ++ List.replicate 4 (Char.ofNat 0)) = 17 :=
  rfl

/-- A response of fewer than 128 bytes starts at byte 18 of the decoded body. -/
theorem getFrom_utf8Lossy_saslInitialResponseBody {response : List UInt8}
    (h : response.length < 128) :
    getFrom (utf8Lossy (saslInitialResponseBody response)) 18 = some (utf8Lossy response) := by
  have hlen : (UInt8.ofNat response.length).toNat < 0x80 := by
    rw [toNat_ofNat_of_lt (by omega)]
    exact h
  have hsize : (Char.ofNat (UInt8.ofNat response.length).toNat).utf8Size = 1 :=
    utf8Size_eq_one_of_lt (by rw [toNat_ofNat_of_lt_128 hlen]; exact hlen)
  rw [utf8Lossy_saslInitialResponseBody (by omega), utf8Lossy_one hlen, ← List.singleton_append,
    ← List.append_assoc]
  have h18 : byteLen (scramSha256Prefix.toList ++ List.replicate 4 (Char.ofNat 0) ++
      [Char.ofNat (UInt8.ofNat response.length).toNat]) = 18 := by
    rw [byteLen_append, byteLen_saslHeader, byteLen_cons, hsize, byteLen_nil]
  rw [← h18, getFrom_append_byteLen]

/-- A response of 128 to 255 bytes that begins with an ASCII byte: the length's low byte reads as
one replacement character of three bytes from byte 17, so byte 18 is no character boundary. -/
theorem getFrom_utf8Lossy_saslInitialResponseBody_eq_none {c : UInt8} {rest : List UInt8}
    (hc : c.toNat < 128) (hlo : 128 ≤ (c :: rest).length) (hhi : (c :: rest).length < 256) :
    getFrom (utf8Lossy (saslInitialResponseBody (c :: rest))) 18 = none := by
  have hlen : 128 ≤ (UInt8.ofNat (c :: rest).length).toNat := by
    rw [toNat_ofNat_of_lt hhi]
    exact hlo
  rw [utf8Lossy_saslInitialResponseBody hhi, utf8Lossy_high_cons hlen hc,
    show 18 = byteLen (scramSha256Prefix.toList ++ List.replicate 4 (Char.ofNat 0)) + (0 + 1) by
      rw [byteLen_saslHeader],
    getFrom_append_byteLen_add]
  exact getFrom_cons_of_lt (by decide) _

theorem parseClientFirstMessage_of_getFrom_eq_none {password : List Char}
    (h : getFrom password 18 = none) :
    parseClientFirstMessage password = .err (.scramClientError "password length") := by
  rw [parseClientFirstMessage, show byteLen scramSha256Prefix.toList + 4 + 1 = 18 from rfl, h]
  rfl

theorem splitOn_clientFirst {authcid last : List Char} (ha : ',' ∉ authcid) (hl : ',' ∉ last) :
    ("n,,n=".toList ++ authcid ++ ',' :: last).splitOn ',' =
      ["n".toList, [], "n=".toList ++ authcid, last] := by
  have hjoin : "n,,n=".toList ++ authcid ++ ',' :: last =
      [','].intercalate ["n".toList, [], "n=".toList ++ authcid, last] := by
    simp [List.intercalate]
  rw [hjoin, List.splitOn_intercalate]
  · intro l hl'
    simp only [List.mem_cons, List.not_mem_nil, or_false] at hl'
    rcases hl' with rfl | rfl | rfl | rfl
    · decide
    · decide
    · simpa using ha
    · exact hl
  · simp

theorem take_two_strBytes_append {key : List Char} (hkey : byteLen key = 2) (s : List Char) :
    (strBytes (key ++ s)).take 2 = strBytes key := by
  rw [strBytes_append, List.take_left' (by rw [length_strBytes, hkey])]

/-- A part that begins with the two bytes of its key is what follows them. -/
theorem parsePart_append {key : List Char} (hkey : byteLen key = 2) (s : List Char) :
    parsePart (some (key ++ s)) key = .ok s := by
  rw [parsePart, if_neg (by rw [byteLen_append]; omega), if_pos (take_two_strBytes_append hkey s),
    ← hkey, sliceFrom_append_byteLen]

theorem parseNonce_append (s : List Char) : parseNonce (some ("r=".toList ++ s)) = .ok s := by
  have hkey : byteLen "r=".toList = 2 := rfl
  rw [parseNonce, if_neg (by rw [byteLen_append]; omega), if_pos (take_two_strBytes_append hkey s),
    ← hkey, sliceFrom_append_byteLen]

theorem parseNonce_of_byteLen_lt {part : List Char} (h : byteLen part < 2) :
    parseNonce (some part) = .panic :=
  if_pos h

/-- A first message `n,,n=` with a user and one more field after the header: what is left is
the nonce's field. -/
theorem parseClientFirstMessage_gs2 {password authcid last : List Char}
    (h : getFrom password 18 = some ("n,,n=".toList ++ authcid ++ ',' :: last))
    (ha : ',' ∉ authcid) (hl : ',' ∉ last) :
    parseClientFirstMessage password = parseNonce (some last) >>= fun nonce =>
      .ok ⟨authcid, none, nonce, 'n', "n=".toList ++ authcid ++ ',' :: last⟩ := by
  rw [parseClientFirstMessage, show byteLen scramSha256Prefix.toList + 4 + 1 = 18 from rfl, h]
  dsimp only
  rw [Outcome.pure_eq, Outcome.ok_bind, splitOn_clientFirst ha hl]
  simp only [List.getElem?_cons_zero, List.getElem?_cons_succ, List.drop_succ_cons, List.drop_zero]
  rw [show parseChannelBinding (some "n".toList) = .ok 'n' from rfl, Outcome.ok_bind,
    show parseAuthzid (some []) = .ok none from rfl, Outcome.ok_bind, parsePart_append rfl,
    Outcome.ok_bind]
  simp [List.intercalate]

theorem isAsciiText_of_isNonceChar {nonce : List Char} (h : ∀ c ∈ nonce, IsNonceChar c) :
    IsAsciiText nonce := by
  intro c hc
  obtain ⟨-, hle, -⟩ := h c hc
  omega

theorem comma_not_mem_of_isNonceChar {nonce : List Char} (h : ∀ c ∈ nonce, IsNonceChar c) :
    ',' ∉ nonce := fun hc => (h ',' hc).2.2 rfl

/-- The first message of a nonce of fewer than 120 characters, fewer than 128 bytes in all, is
read back: no user, no authorization identity, the nonce, and the bare message. -/
theorem parseClientFirstMessage_short_nonce (password nonce : List Char)
    (hn : ∀ c ∈ nonce, IsNonceChar c) (hshort : nonce.length < 120) :
    parseClientFirstMessage
        (utf8Lossy (saslInitialResponseBody (ScramSha256.fromNonce password nonce).message)) =
      .ok ⟨[], none, nonce, 'n', "n=,r=".toList ++ nonce⟩ := by
  have hascii := isAsciiText_of_isNonceChar hn
  have hlen : (strBytes ("n,,n=,r=".toList ++ nonce)).length < 128 := by
    rw [length_strBytes, byteLen_append, byteLen_of_ascii hascii]
    exact Nat.add_lt_of_lt_sub' hshort
  -- the message is `n,,n=` with an empty user, a comma, and the nonce's field
  have hget : getFrom (utf8Lossy (saslInitialResponseBody (strBytes ("n,,n=,r=".toList ++ nonce))))
      18 = some ("n,,n=".toList ++ [] ++ ',' :: ("r=".toList ++ nonce)) := by
    rw [getFrom_utf8Lossy_saslInitialResponseBody hlen, utf8Lossy_strBytes]
    rfl
  have hr : ',' ∉ "r=".toList ++ nonce := by
    simpa using comma_not_mem_of_isNonceChar hn
  show parseClientFirstMessage
    (utf8Lossy (saslInitialResponseBody (strBytes ("n,,n=,r=".toList ++ nonce)))) = _
  rw [parseClientFirstMessage_gs2 hget (List.not_mem_nil) hr, parseNonce_append]
  rfl

theorem parseClientFirstMessage_short_nonce_abc :
    (∀ c ∈ ['a', 'b', 'c'], IsNonceChar c) ∧ ['a', 'b', 'c'].length < 120 ∧
      parseClientFirstMessage (utf8Lossy (saslInitialResponseBody
        (ScramSha256.fromNonce "secret".toList ['a', 'b', 'c']).message)) =
        .ok ⟨[], none, ['a', 'b', 'c'], 'n', "n=,r=".toList ++ ['a', 'b', 'c']⟩ := by
  have hchars : ∀ c ∈ ['a', 'b', 'c'], IsNonceChar c := by
    intro c hc
    rcases List.mem_cons.mp hc with rfl | hc
    · decide
    rcases List.mem_pair.mp hc with rfl | rfl <;> decide
  exact ⟨hchars, by decide, parseClientFirstMessage_short_nonce _ _ hchars (by decide)⟩

theorem scram_long_nonce_rejected (password nonce : List Char)
    (hn : ∀ c ∈ nonce, IsNonceChar c) (hlo : 120 ≤ nonce.length) (hhi : nonce.length ≤ 247) :
    parseClientFirstMessage
        (utf8Lossy (saslInitialResponseBody (ScramSha256.fromNonce password nonce).message)) =
      .err (.scramClientError "password length") := by
  have hascii := isAsciiText_of_isNonceChar hn
  -- the message is the eight bytes of `n,,n=,r=` and one byte for each nonce character
  have hlen : (strBytes ("n,,n=,r=".toList ++ nonce)).length = nonce.length + 8 := by
    rw [length_strBytes, byteLen_append, byteLen_of_ascii hascii, Nat.add_comm]
    rfl
  have hn' : 'n'.toNat < 128 := by decide
  have hfirst : strBytes ("n,,n=,r=".toList ++ nonce) =
      'n'.val.toUInt8 :: strBytes (",,n=,r=".toList ++ nonce) :=
    strBytes_cons_of_lt hn' _
  apply parseClientFirstMessage_of_getFrom_eq_none
  show getFrom (utf8Lossy (saslInitialResponseBody (strBytes ("n,,n=,r=".toList ++ nonce)))) 18 =
    none
  rw [hfirst] at hlen ⊢
  exact getFrom_utf8Lossy_saslInitialResponseBody_eq_none
    (by rw [toNat_toUInt8_of_lt hn']; exact hn') (by omega) (by omega)

theorem scram_long_nonce_rejected_at_120 :
    (∀ c ∈ List.replicate 120 'a', IsNonceChar c) ∧ 120 ≤ (List.replicate 120 'a').length ∧
      (List.replicate 120 'a').length ≤ 247 ∧
      parseClientFirstMessage (utf8Lossy (saslInitialResponseBody
        (ScramSha256.fromNonce "secret".toList (List.replicate 120 'a')).message)) =
        .err (.scramClientError "password length") := by
  have hchars : ∀ c ∈ List.replicate 120 'a', IsNonceChar c := by
    intro c hc
    rw [List.eq_of_mem_replicate hc]
    decide
  have hlen : (List.replicate 120 'a').length = 120 := List.length_replicate
  exact ⟨hchars, hlen.ge, hlen.trans_le (by decide),
    scram_long_nonce_rejected _ _ hchars hlen.ge (hlen.trans_le (by decide))⟩

theorem scram_short_nonce_field_panics (header authcid field : List Char)
    (hheader : byteLen header = 18) (hauthcid : ',' ∉ authcid) (hfield : ',' ∉ field)
    (hshort : byteLen field < 2) :
    parseClientFirstMessage (header ++ "n,,n=".toList ++ authcid ++ ',' :: field) = .panic := by
  have hget : getFrom (header ++ "n,,n=".toList ++ authcid ++ ',' :: field) 18 =
      some ("n,,n=".toList ++ authcid ++ ',' :: field) := by
    rw [← hheader, List.append_assoc, List.append_assoc, getFrom_append_byteLen,
      List.append_assoc]
  rw [parseClientFirstMessage_gs2 hget hauthcid hfield, parseNonce_of_byteLen_lt hshort]
  rfl

theorem scram_short_nonce_field_panics_at_r :
    byteLen (scramSha256Prefix.toList ++ List.replicate 4 (Char.ofNat 0) ++ ['\x08']) = 18 ∧
      ',' ∉ "u".toList ∧ ',' ∉ "r".toList ∧ byteLen "r".toList < 2 ∧
      parseClientFirstMessage (scramSha256Prefix.toList ++ List.replicate 4 (Char.ofNat 0) ++
        ['\x08'] ++ "n,,n=".toList ++ "u".toList ++ ',' :: "r".toList) = .panic :=
  ⟨rfl, by decide, by decide, by decide,
    scram_short_nonce_field_panics _ "u".toList "r".toList rfl (by decide) (by decide)
      (by decide)⟩

/-! ## Reading the final message -/

theorem fieldValue_ne_panic (field key : List Char) (msg : String) :
    fieldValue field key msg ≠ .panic := by
  unfold fieldValue
  split
  · split <;> simp
  · simp

/-- **The final message's parser never panics.** Its `rfind(',').unwrap()` is reached only
after `rsplit_once(',')` has found a comma, and every other step returns an error. -/
theorem parseClientFinalMessage_ne_panic (crypto : ScramCrypto) (data : List Char) :
    parseClientFinalMessage crypto data ≠ .panic := by
  unfold parseClientFinalMessage
  dsimp only
  rcases hr : rsplitOnce ',' data with _ | ⟨before, after⟩
  · -- without a comma the first split already fails
    rw [splitOnce_eq_none (rsplitOnce_eq_none_iff.mp hr)]
    simp
  -- with one, `rfind` finds the last comma, and the text before it is a prefix
  have hc2wop : getTo data (byteLen before) = some before := by
    rw [eq_of_rsplitOnce hr, getTo_append_byteLen]
  rw [rfind_of_rsplitOnce hr]
  simp only [hc2wop]
  split
  · split
    · split
      · simp
      · rw [Outcome.pure_eq, Outcome.ok_bind]
        split
        · refine Outcome.bind_ne_panic (fieldValue_ne_panic _ _ _) fun nonce _ => ?_
          refine Outcome.bind_ne_panic (fieldValue_ne_panic _ _ _) fun proof _ => ?_
          rw [Outcome.pure_eq, Outcome.ok_bind]
          split <;> split <;> simp
        · simp
    · simp
  · simp

/-! ## The final check -/

end PgDoorman.Auth
