import Mathlib.Data.List.Sigma
import PgDoorman.Messages.Parse

/-!
# The pool's prepared-statement cache

Each pool shares its prepared statements between clients through a `PreparedStatementCache`, a
`DashMap` from the 64-bit cache key of a Parse to an entry holding the shared `Arc<Parse>`,
renamed `DOORMAN_n`. `get_or_insert` returns the entry stored under the key, and on a miss it
interns the query text in the process-wide interner, under the same key, renames the statement,
stores it and evicts the least recently used entries above `max_size`. Neither path compares the
query: the key stands for the statement.

## The model

A `DashMap` is a list of key–value pairs with Mathlib's operations on them (`List.dlookup`,
`List.kinsert`, `List.kerase`), in an order of the model's own: a `DashMap` has none to follow.
Calls are sequential. The process-wide state `get_or_insert` uses, `PREPARED_STATEMENT_COUNTER`
and the two halves of the query interner, is `Statics`; the interner's garbage-collection
bookkeeping and sweeps are left out, so an interned text stays. Counters are `Nat`s.

## Main definitions

* `CacheEntry`, `PreparedStatementCache`, `Statics`
* `getOrInsert`: `PreparedStatementCache::get_or_insert`
* `registerParses`: the cache step of a run of `Client::process_parse_immediate` calls

## Main results

* `getOrInsertAll_content`: the cache never substitutes one statement for another as long as
  equal keys come with equal contents
* `registerParses_substitutes`: the key does not separate contents: for every choice of the
  two hash functions and every planner hash, a Parse of `SELECT 1` with 257 parameter types and
  a Parse of another query with 256 get the same `DOORMAN_n` statement, the first one
-/

namespace PgDoorman.Server

open Messages

/-- `FLAG_NAMED`. -/
def flagNamed : UInt8 := 0b01

/-- `FLAG_ANONYMOUS`. -/
def flagAnonymous : UInt8 := 0b10

/-- How clients have referenced an entry: `CacheEntryKind`. -/
inductive CacheEntryKind where
  | named
  | anonymous
  | mixed
  deriving Repr, DecidableEq

/-- `CacheEntryKind::from_bits`; a pattern with neither bit is read as `mixed`. -/
def CacheEntryKind.fromBits (bits : UInt8) : CacheEntryKind :=
  if bits &&& (flagNamed ||| flagAnonymous) = flagNamed then .named
  else if bits &&& (flagNamed ||| flagAnonymous) = flagAnonymous then .anonymous
  else .mixed

/-- `CacheEntry`: the shared Parse, the LRU timestamp `count_used` and `kind_flags`; the hit and
miss counters nothing here reads are left out. -/
structure CacheEntry where
  parse : Parse
  countUsed : Nat
  kindFlags : UInt8
  deriving Repr, DecidableEq

namespace CacheEntry

/-- `CacheEntry::new`. -/
def new (parse : Parse) (countUsed : Nat) (initialKind : CacheEntryKind) : CacheEntry :=
  ⟨parse, countUsed, match initialKind with
    | .named => flagNamed
    | .anonymous => flagAnonymous
    | .mixed => flagNamed ||| flagAnonymous⟩

/-- The test-and-set of `note_named` and `note_anonymous`: the flag is or-ed in unless set. -/
def noteFlag (flag : UInt8) (e : CacheEntry) : CacheEntry :=
  if e.kindFlags &&& flag = 0 then { e with kindFlags := e.kindFlags ||| flag } else e

/-- `CacheEntry::note_named`. -/
def noteNamed (e : CacheEntry) : CacheEntry :=
  noteFlag flagNamed e

/-- `CacheEntry::note_anonymous`. -/
def noteAnonymous (e : CacheEntry) : CacheEntry :=
  noteFlag flagAnonymous e

/-- `CacheEntry::kind`. -/
def kind (e : CacheEntry) : CacheEntryKind :=
  CacheEntryKind.fromBits e.kindFlags

@[simp] theorem noteFlag_parse (flag : UInt8) (e : CacheEntry) : (noteFlag flag e).parse = e.parse := by
  unfold noteFlag
  split <;> rfl

end CacheEntry

/-- A pool's cache: `cache`, `max_size` and the LRU `counter`; the byte total kept for the
dashboard is left out. -/
structure PreparedStatementCache where
  cache : List (Σ _ : UInt64, CacheEntry)
  maxSize : Nat
  counter : Nat
  deriving Repr, DecidableEq

/-- `PreparedStatementCache::new`: a size of zero is raised to one. -/
def PreparedStatementCache.new (size : Nat) : PreparedStatementCache :=
  ⟨[], if size = 0 then 1 else size, 0⟩

@[simp] theorem PreparedStatementCache.new_cache (size : Nat) :
    (PreparedStatementCache.new size).cache = [] :=
  rfl

@[simp] theorem PreparedStatementCache.new_counter (size : Nat) :
    (PreparedStatementCache.new size).counter = 0 :=
  rfl

theorem PreparedStatementCache.new_maxSize_pos (size : Nat) :
    0 < (PreparedStatementCache.new size).maxSize := by
  simp only [PreparedStatementCache.new]
  split <;> omega

/-- The process-wide state `get_or_insert` reads: `PREPARED_STATEMENT_COUNTER`, and the texts of
`NAMED_INTERNER` and `ANON_INTERNER` by key. -/
structure Statics where
  preparedStatementCounter : Nat
  namedInterner : List (Σ _ : UInt64, String)
  anonInterner : List (Σ _ : UInt64, String)
  deriving Repr, DecidableEq

/-- `intern_named` and `intern_anon` on their table: the text already interned under the key,
else the query, now interned under it. -/
def internIn (table : List (Σ _ : UInt64, String)) (query : String) (hash : UInt64) :
    String × List (Σ _ : UInt64, String) :=
  match table.dlookup hash with
  | some text => (text, table)
  | none => (query, table.kinsert hash query)

/-- `intern_query`: the half is chosen by whether this Parse is unnamed. -/
def Statics.internQuery (g : Statics) (query : String) (hash : UInt64) (isAnonymous : Bool) :
    String × Statics :=
  if isAnonymous then
    let r := internIn g.anonInterner query hash
    (r.1, { g with anonInterner := r.2 })
  else
    let r := internIn g.namedInterner query hash
    (r.1, { g with namedInterner := r.2 })

/-- The scan of `evict_oldest`: from `u64::MAX`, each entry of smaller `count_used` becomes the
oldest. -/
def oldestKey (cache : List (Σ _ : UInt64, CacheEntry)) : Option UInt64 :=
  (cache.foldl (fun acc e => if e.2.countUsed < acc.2 then (some e.1, e.2.countUsed) else acc)
    ((none : Option UInt64), 2 ^ 64 - 1)).1

/-- `evict_oldest`: the oldest entry is removed. -/
def evictOldest (cache : List (Σ _ : UInt64, CacheEntry)) : List (Σ _ : UInt64, CacheEntry) :=
  match oldestKey cache with
  | some key => cache.kerase key
  | none => cache

/-- `while self.cache.len() > self.max_size { self.evict_oldest() }`, for at most `fuel` rounds.
`get_or_insert` gives it the cache's length, one round for each entry it could remove; where a
round removes nothing the source spins on, and this stops. -/
def evictExcess (maxSize : Nat) :
    Nat → List (Σ _ : UInt64, CacheEntry) → List (Σ _ : UInt64, CacheEntry)
  | 0, cache => cache
  | fuel + 1, cache =>
    if maxSize < cache.length then evictExcess maxSize fuel (evictOldest cache) else cache

/-- `PreparedStatementCache::get_or_insert(parse, hash, client_given_name)`: the new process-wide
state, the new cache and the `Arc<Parse>` returned. -/
def getOrInsert (g : Statics) (c : PreparedStatementCache) (parse : Parse) (hash : UInt64)
    (clientGivenName : Option String) : Statics × PreparedStatementCache × Parse :=
  let timestamp := c.counter
  let isAnonymous := clientGivenName.isNone
  match c.cache.dlookup hash with
  | some entry =>
    -- the fast path returns what is stored under the key; the query is never compared
    let entry := { (if isAnonymous then entry.noteAnonymous else entry.noteNamed) with
      countUsed := timestamp }
    (g, { c with cache := c.cache.kinsert hash entry, counter := timestamp + 1 }, entry.parse)
  | none =>
    -- `parse.clone().intern_query(hash, is_anonymous).rewrite()`
    let interned := g.internQuery parse.query hash isAnonymous
    let newParse := ({ parse with query := interned.1 } : Parse).rewrite
      interned.2.preparedStatementCounter
    let g := { interned.2 with preparedStatementCounter := interned.2.preparedStatementCounter + 1 }
    let initialKind := if isAnonymous then CacheEntryKind.anonymous else .named
    let cache := c.cache.kinsert hash (CacheEntry.new newParse timestamp initialKind)
    (g, { c with cache := evictExcess c.maxSize cache.length cache, counter := timestamp + 1 },
      newParse)

/-- One `get_or_insert` call: the Parse, its key and the client's name for it. -/
structure Registration where
  parse : Parse
  hash : UInt64
  clientGivenName : Option String

/-- The Parses a run of `get_or_insert` calls returns. -/
def getOrInsertAll : Statics → PreparedStatementCache → List Registration → List Parse
  | _, _, [] => []
  | g, c, r :: rs =>
    let out := getOrInsert g c r.parse r.hash r.clientGivenName
    out.2.2 :: getOrInsertAll out.1 out.2.1 rs

/-- The cache step of `Client::process_parse_immediate` for a Parse from a client whose planner
settings hash to `plannerParamHash`: the key is `get_hash_with_planner_params`, and an unnamed
statement is registered with no name. -/
def registration (h : Hashers) (parse : Parse) (plannerParamHash : UInt64) : Registration :=
  ⟨parse, getHashWithPlannerParams h parse plannerParamHash,
    if parse.name = "" then none else some parse.name⟩

/-- The Parses returned to a run of `process_parse_immediate` calls on one pool, each with its
client's planner hash. -/
def registerParses (h : Hashers) (g : Statics) (c : PreparedStatementCache)
    (calls : List (Parse × UInt64)) : List Parse :=
  getOrInsertAll g c (calls.map fun call => registration h call.1 call.2)

/-- A hit returns the stored Parse. -/
theorem getOrInsert_hit {g : Statics} {c : PreparedStatementCache} {hash : UInt64}
    {entry : CacheEntry} (hentry : c.cache.dlookup hash = some entry) (parse : Parse)
    (clientGivenName : Option String) :
    (getOrInsert g c parse hash clientGivenName).2.2 = entry.parse := by
  unfold getOrInsert
  rw [hentry]
  cases clientGivenName.isNone <;> simp [CacheEntry.noteAnonymous, CacheEntry.noteNamed]

/-- The first call on a fresh cache and interner stores and returns the Parse, renamed, with its
own query. -/
theorem getOrInsert_fresh (n size : Nat) (parse : Parse) (hash : UInt64)
    (clientGivenName : Option String) :
    (getOrInsert ⟨n, [], []⟩ (PreparedStatementCache.new size) parse hash clientGivenName).2 =
      (⟨[⟨hash, CacheEntry.new (parse.rewrite n) 0
          (if clientGivenName.isNone then .anonymous else .named)⟩],
        (PreparedStatementCache.new size).maxSize, 1⟩, parse.rewrite n) := by
  have hfits : (PreparedStatementCache.new size).maxSize ≠ 0 :=
    Nat.pos_iff_ne_zero.mp (PreparedStatementCache.new_maxSize_pos size)
  unfold getOrInsert Statics.internQuery
  cases clientGivenName.isNone <;>
    simp [internIn, evictExcess, List.kinsert, hfits]

/-! ## The cache is right while keys separate contents -/

section Agreement

variable (content : UInt64 → String × List UInt32)

/-- Every entry of an interner table holds the text of its key's content. -/
def TableAgrees (table : List (Σ _ : UInt64, String)) : Prop :=
  ∀ e ∈ table, e.2 = (content e.1).1

/-- Every cache entry and every interned text is the content `content` assigns its key. -/
structure KeysAgree (g : Statics) (c : PreparedStatementCache) : Prop where
  cache : ∀ e ∈ c.cache, e.2.parse.content = content e.1
  named : TableAgrees content g.namedInterner
  anon : TableAgrees content g.anonInterner

theorem keysAgree_init (n size : Nat) :
    KeysAgree content ⟨n, [], []⟩ (PreparedStatementCache.new size) :=
  ⟨by simp, by simp [TableAgrees], by simp [TableAgrees]⟩

variable {content}

/-- What holds of every entry holds after an insertion of an entry that has it. -/
theorem forall_mem_kinsert {β : Type} {P : (Σ _ : UInt64, β) → Prop}
    {l : List (Σ _ : UInt64, β)} (hl : ∀ e ∈ l, P e) {a : UInt64} {b : β} (hb : P ⟨a, b⟩) :
    ∀ e ∈ l.kinsert a b, P e := by
  intro e he
  rw [List.kinsert_def, List.mem_cons] at he
  rcases he with rfl | he
  · exact hb
  · exact hl e ((List.kerase_sublist a l).subset he)

theorem evictOldest_sublist (cache : List (Σ _ : UInt64, CacheEntry)) :
    (evictOldest cache).Sublist cache := by
  unfold evictOldest
  split
  · exact List.kerase_sublist _ _
  · exact List.Sublist.refl _

theorem evictExcess_sublist (maxSize fuel : Nat) (cache : List (Σ _ : UInt64, CacheEntry)) :
    (evictExcess maxSize fuel cache).Sublist cache := by
  induction fuel generalizing cache with
  | zero => exact List.Sublist.refl _
  | succ fuel ih =>
    unfold evictExcess
    split
    · exact (ih _).trans (evictOldest_sublist cache)
    · exact List.Sublist.refl _

/-- Interning a query of its key's content returns it and keeps the table agreeing. -/
theorem internIn_agrees {table : List (Σ _ : UInt64, String)} (ht : TableAgrees content table)
    {query : String} {hash : UInt64} (hq : query = (content hash).1) :
    (internIn table query hash).1 = query ∧ TableAgrees content (internIn table query hash).2 := by
  unfold internIn
  split
  case h_1 text htext =>
    exact ⟨(ht _ (List.of_mem_dlookup htext)).trans hq.symm, ht⟩
  case h_2 =>
    exact ⟨rfl, forall_mem_kinsert ht hq⟩

theorem internQuery_agrees {g : Statics} {c : PreparedStatementCache} (hg : KeysAgree content g c)
    {query : String} {hash : UInt64} (hq : query = (content hash).1) (isAnonymous : Bool) :
    (g.internQuery query hash isAnonymous).1 = query ∧
      KeysAgree content (g.internQuery query hash isAnonymous).2 c := by
  unfold Statics.internQuery
  split
  · obtain ⟨hret, htable⟩ := internIn_agrees hg.anon hq
    exact ⟨hret, ⟨hg.cache, hg.named, htable⟩⟩
  · obtain ⟨hret, htable⟩ := internIn_agrees hg.named hq
    exact ⟨hret, ⟨hg.cache, htable, hg.anon⟩⟩

/-- **One call.** A Parse whose content is its key's returns that content, and the cache and
the interner still agree. -/
theorem getOrInsert_agrees {g : Statics} {c : PreparedStatementCache}
    (hg : KeysAgree content g c) {parse : Parse} {hash : UInt64}
    (hp : parse.content = content hash) (clientGivenName : Option String) :
    KeysAgree content (getOrInsert g c parse hash clientGivenName).1
        (getOrInsert g c parse hash clientGivenName).2.1 ∧
      (getOrInsert g c parse hash clientGivenName).2.2.content = content hash := by
  unfold getOrInsert
  split
  case h_1 entry hentry =>
    -- a hit: the stored entry already has the key's content, and only its bookkeeping changes
    have hstored : entry.parse.content = content hash := hg.cache _ (List.of_mem_dlookup hentry)
    have hnoted : ∀ b : Bool,
        (if b then entry.noteAnonymous else entry.noteNamed).parse = entry.parse := by
      intro b
      cases b <;> simp [CacheEntry.noteAnonymous, CacheEntry.noteNamed]
    refine ⟨⟨forall_mem_kinsert hg.cache ?_, hg.named, hg.anon⟩, ?_⟩ <;>
      simpa only [hnoted] using hstored
  case h_2 =>
    -- a miss: the interned text is the query, so the new entry has the Parse's own content
    have hq : parse.query = (content hash).1 := by rw [← hp]; rfl
    obtain ⟨hret, hg'⟩ := internQuery_agrees hg hq clientGivenName.isNone
    set interned := g.internQuery parse.query hash clientGivenName.isNone
    have hnew : (({ parse with query := interned.1 } : Parse).rewrite
        interned.2.preparedStatementCounter).content = content hash := by
      rw [Parse.content_rewrite, ← hp, hret]
    refine ⟨⟨?_, hg'.named, hg'.anon⟩, hnew⟩
    intro e he
    refine forall_mem_kinsert hg'.cache ?_ e ((evictExcess_sublist _ _ _).subset he)
    exact hnew

/-- **The run.** If every call's Parse has the content `content` gives its key, every call gets
back a statement of its own content. -/
theorem getOrInsertAll_agrees (rs : List Registration) (hrs : ∀ r ∈ rs, r.parse.content = content r.hash) :
    ∀ {g : Statics} {c : PreparedStatementCache}, KeysAgree content g c →
      (getOrInsertAll g c rs).map Parse.content = rs.map (·.parse.content) := by
  induction rs with
  | nil => intro _ _ _; rfl
  | cons r rs ih =>
    intro g c hg
    have hr : r.parse.content = content r.hash := hrs r (List.mem_cons_self ..)
    obtain ⟨hg', hret⟩ := getOrInsert_agrees hg hr r.clientGivenName
    simp only [getOrInsertAll, List.map_cons, hret, hr]
    rw [ih (fun r' hr' => hrs r' (List.mem_cons_of_mem _ hr')) hg']

end Agreement

/-- **The cache substitutes nothing while keys separate contents.** From a fresh cache and
interner, a run of calls in which any two Parses with the same key have the same content gets
back, for each call, a statement with that call's query and parameter types. -/
theorem getOrInsertAll_content (n size : Nat) (rs : List Registration)
    (hkeys : ∀ r ∈ rs, ∀ r' ∈ rs, r.hash = r'.hash → r.parse.content = r'.parse.content) :
    (getOrInsertAll ⟨n, [], []⟩ (PreparedStatementCache.new size) rs).map Parse.content =
      rs.map (·.parse.content) := by
  -- the content of a key is that of the first call made with it
  let content : UInt64 → String × List UInt32 := fun k =>
    ((rs.find? (·.hash = k)).map (·.parse.content)).getD ("", [])
  have hrs : ∀ r ∈ rs, r.parse.content = content r.hash := by
    intro r hr
    obtain ⟨r₀, hfind⟩ : ∃ r₀, rs.find? (·.hash = r.hash) = some r₀ :=
      Option.isSome_iff_exists.mp (List.find?_isSome.mpr ⟨r, hr, by simp⟩)
    have hr₀ : r₀.hash = r.hash := by simpa using List.find?_some hfind
    simp only [content, hfind, Option.map_some, Option.getD_some]
    exact hkeys r hr r₀ (List.mem_of_find?_eq_some hfind) hr₀.symm
  exact getOrInsertAll_agrees rs hrs (keysAgree_init content n size)

/-- Two clients parse `SELECT 1` under one key, between them a third parses `SELECT 2` under
another, in a cache of one entry: the second `SELECT 1` finds its statement evicted and
registers it again, and every call gets its own query back. -/
theorem getOrInsertAll_content_evicted :
    let rs : List Registration :=
      [⟨⟨"a", "SELECT 1", 0, []⟩, 1, some "a"⟩, ⟨⟨"", "SELECT 2", 0, []⟩, 2, none⟩,
        ⟨⟨"b", "SELECT 1", 0, []⟩, 1, some "b"⟩]
    (∀ r ∈ rs, ∀ r' ∈ rs, r.hash = r'.hash → r.parse.content = r'.parse.content) ∧
      (getOrInsertAll ⟨0, [], []⟩ (PreparedStatementCache.new 1) rs).map Parse.content =
        rs.map (·.parse.content) := by
  intro rs
  have hkeys : ∀ r ∈ rs, ∀ r' ∈ rs, r.hash = r'.hash → r.parse.content = r'.parse.content := by
    decide
  exact ⟨hkeys, getOrInsertAll_content 0 1 rs hkeys⟩

/-! ## The key does not separate contents -/

/-- A client's `SELECT 1`, with 257 parameter types, the first one `0x01004141`. -/
def selectOne : Parse :=
  ⟨"a", "SELECT 1", 257, 0x01004141 :: List.replicate 256 23⟩

/-- Another client's query: `SELECT 1` followed by the bytes `01 01 41 41`, with 256 parameter
types. -/
def selectOneShifted : Parse :=
  ⟨"b", "SELECT 1" ++ "\x01\x01AA", 256, List.replicate 256 23⟩

/-- **The pool cache hands one client another client's statement.** The hash input of
`selectOneShifted` is that of `selectOne`, the count `257` and the low half of the first type
having moved into the query, so whatever XXH3 and SipHash-1-3 compute and whatever the planner
hash is, both have one key. The second Parse hits the entry of the first and gets its
`DOORMAN_n`, with the first's query and parameter types. -/
theorem registerParses_substitutes (h : Hashers) (plannerParamHash : UInt64) (n size : Nat) :
    registerParses h ⟨n, [], []⟩ (PreparedStatementCache.new size)
        [(selectOne, plannerParamHash), (selectOneShifted, plannerParamHash)] =
      [selectOne.rewrite n, selectOne.rewrite n] ∧
      selectOne.content ≠ selectOneShifted.content := by
  have hkey : getHashWithPlannerParams h selectOne plannerParamHash =
      getHashWithPlannerParams h selectOneShifted plannerParamHash :=
    getHashWithPlannerParams_shift h "a" "b" "SELECT 1" "\x01\x01AA" 256 257 0x01004141
      (List.replicate 256 23) plannerParamHash (by decide) (by decide)
  refine ⟨?_, by decide⟩
  have hnamed : selectOne.name ≠ "" ∧ selectOneShifted.name ≠ "" := by decide
  simp only [registerParses, registration, List.map_cons, List.map_nil, getOrInsertAll,
    if_neg hnamed.1, if_neg hnamed.2, ← hkey]
  rw [getOrInsert_fresh, getOrInsert_hit (List.dlookup_cons_eq _ _ _)]
  rfl

end PgDoorman.Server
