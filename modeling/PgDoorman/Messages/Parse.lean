import PgDoorman.Wire.Bytes

/-!
# The cache key of a Parse message

The pool-level prepared-statement cache is keyed by a 64-bit digest of a Parse:
`Parse::get_hash_with_planner_params` writes the query's bytes, `num_params` as an `i16`, the
parameter types' raw bytes and, when it is not zero, the hash of the client's planner settings
into one hasher, XXH3 for a query of 64 bytes or more and SipHash-1-3 otherwise.

Both are `std::hash::Hasher`s, whose integer writes write the integer's native-endian bytes, and
whose digest is a function of the whole stream of bytes written, however it was cut into writes.
The model therefore takes the two hash functions as arbitrary functions of a byte list
(`Hashers`) and computes the stream (`hashInput`). The stream has no length framing: where the
query ends and the parameter count begins is not in it.

## Main definitions

* `Parse`: the decoded message's fields; `Parse.rewrite`, its renaming
* `hashInput`, `getHashWithPlannerParams`

## Main results

* `hashInput_shift`: moving the count and the low half of the first parameter type into the end
  of the query, with one type fewer, writes the same bytes
* `getHashWithPlannerParams_shift`: so for every pair of hash functions the two Parses have the
  same key
-/

namespace PgDoorman.Messages

open Wire

/-- `Parse` as decoded from the client: the statement name, the query, `num_params` (an `i16`,
kept as its bit pattern) and the parameter types (`i32`s, kept as their bit patterns). -/
structure Parse where
  name : String
  query : String
  numParams : UInt16
  paramTypes : List UInt32
  deriving Repr, DecidableEq

/-- `Parse::rewrite`: the statement is renamed `DOORMAN_n`, `n` being the value the rename's
`fetch_add` took from `PREPARED_STATEMENT_COUNTER`. -/
def Parse.rewrite (p : Parse) (n : Nat) : Parse :=
  { p with name := "DOORMAN_" ++ toString n }

/-- What a prepared statement is to PostgreSQL apart from its name: its query text and its
parameter types. -/
def Parse.content (p : Parse) : String × List UInt32 :=
  (p.query, p.paramTypes)

@[simp] theorem Parse.content_rewrite (p : Parse) (n : Nat) : (p.rewrite n).content = p.content :=
  rfl

/-- The two hashers `get_hash` chooses between, as what they compute: a digest of the bytes
written. -/
structure Hashers where
  xxh3 : List UInt8 → UInt64
  sipHash13 : List UInt8 → UInt64

/-- The bytes written to the hasher: the query, `write_i16(num_params)`, the parameter types'
bytes, and `write_u64(planner_param_hash)` unless that is zero, all little-endian. -/
def hashInput (p : Parse) (plannerParamHash : UInt64) : List UInt8 :=
  utf8Bytes p.query ++ leBytes 2 p.numParams.toNat ++
    p.paramTypes.flatMap (fun t => leBytes 4 t.toNat) ++
    (if plannerParamHash = 0 then [] else leBytes 8 plannerParamHash.toNat)

/-- `Parse::get_hash_with_planner_params` (with a zero planner hash, `Parse::get_hash`): the
hasher is chosen by the query's length in bytes. -/
def getHashWithPlannerParams (h : Hashers) (p : Parse) (plannerParamHash : UInt64) : UInt64 :=
  if 64 ≤ (utf8Bytes p.query).length then h.xxh3 (hashInput p plannerParamHash)
  else h.sipHash13 (hashInput p plannerParamHash)

/-- **The hash input is not framed.** Appending `s` to the query and dropping the first
parameter type writes the same bytes, whenever the bytes of `s` followed by the new count are
the old count followed by the dropped type: the count and part of a type have moved into the
query, and nothing in the stream tells where the query ends. -/
theorem hashInput_shift (name name' q s : String) (k k' : UInt16) (t : UInt32) (us : List UInt32)
    (plannerParamHash : UInt64)
    (hs : utf8Bytes s ++ leBytes 2 k.toNat = leBytes 2 k'.toNat ++ leBytes 4 t.toNat) :
    hashInput ⟨name, q, k', t :: us⟩ plannerParamHash =
      hashInput ⟨name', q ++ s, k, us⟩ plannerParamHash := by
  have hshift : leBytes 2 k'.toNat ++ (t :: us).flatMap (fun t => leBytes 4 t.toNat) =
      utf8Bytes s ++ leBytes 2 k.toNat ++ us.flatMap (fun t => leBytes 4 t.toNat) := by
    rw [hs, List.flatMap_cons, List.append_assoc]
  simp only [hashInput, utf8Bytes_append, List.append_assoc] at hshift ⊢
  rw [← List.append_assoc (leBytes 2 k'.toNat), hshift]
  simp only [List.append_assoc]

/-- So two Parses related that way, with queries on the same side of 64 bytes, have the same
cache key, whatever the two hash functions are. -/
theorem getHashWithPlannerParams_shift (h : Hashers) (name name' q s : String) (k k' : UInt16)
    (t : UInt32) (us : List UInt32) (plannerParamHash : UInt64)
    (hs : utf8Bytes s ++ leBytes 2 k.toNat = leBytes 2 k'.toNat ++ leBytes 4 t.toNat)
    (hside : 64 ≤ (utf8Bytes q).length ↔ 64 ≤ (utf8Bytes (q ++ s)).length) :
    getHashWithPlannerParams h ⟨name, q, k', t :: us⟩ plannerParamHash =
      getHashWithPlannerParams h ⟨name', q ++ s, k, us⟩ plannerParamHash := by
  unfold getHashWithPlannerParams
  rw [hashInput_shift name name' q s k k' t us plannerParamHash hs]
  by_cases hlong : 64 ≤ (utf8Bytes q).length
  · rw [if_pos hlong, if_pos (hside.mp hlong)]
  · rw [if_neg hlong, if_neg (mt hside.mpr hlong)]

end PgDoorman.Messages
