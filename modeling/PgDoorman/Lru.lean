import Mathlib.Data.List.Nodup

/-!
# Least-recently-used caches

A server connection keeps the names of its prepared statements in an `LruCache<String, ()>` of
the `lru` crate, which is not part of this repository. The cache is therefore a parameter: the
class `LruCache σ α` gives the operations the connection calls on a cache state `σ` of keys `α`
(`new`, `get`, `push`, `pop`, `clear`, and the keys it holds), and `LawfulLruCache` the laws
of those operations that the proofs about the connection use, each a statement about which keys
the cache holds: `get` answers whether it holds the key and keeps the keys, `push` of a new key
adds it and gives up at most the one old key it returns, `pop` removes its key, `clear` and
`new` hold none. Nothing is assumed about when `push` evicts or which key it picks.

`Cache` is a model of such a cache: its keys, most recently used first, at most `cap` of them
and distinct, `cap` positive, so that a full cache always has a least recently used key to give
up. It satisfies the laws, and the runs of a connection on fixed inputs use it.

## Main definitions

* `LruCache`, `LawfulLruCache`: the operations and their laws
* `Cache`, `Cache.get`, `Cache.push`, `Cache.pop`, `Cache.clear`: the model

## Main results

* `Cache.lawfulLruCache`: the model satisfies the laws
-/

namespace Lru

/-- The operations of an LRU cache of keys `α` held in a state `σ`, as `LruCache<String, ()>`
offers them: `new` with a positive capacity, `get`, which promotes the key it finds, `push`,
which inserts or promotes a key and returns the entry it displaced, `pop`, `clear`, and the keys
held, most recently used first as `iter` lists them. -/
class LruCache (σ : Type) (α : outParam Type) where
  new : (cap : Nat) → 0 < cap → σ
  keys : σ → List α
  get : σ → α → Bool × σ
  push : σ → α → Option α × σ
  pop : σ → α → σ
  clear : σ → σ

open LruCache

/-- The laws of an LRU cache that the proofs about a server connection rest on. -/
class LawfulLruCache (σ : Type) (α : outParam Type) [DecidableEq α] [LruCache σ α] : Prop where
  keys_new : ∀ (cap : Nat) (h : 0 < cap), keys (new cap h : σ) = []
  keys_clear : ∀ c : σ, keys (clear c) = []
  get_fst : ∀ (c : σ) (k : α), (get c k).1 = decide (k ∈ keys c)
  mem_keys_get : ∀ (c : σ) (k x : α), x ∈ keys (get c k).2 ↔ x ∈ keys c
  /-- A miss changes nothing. -/
  get_of_not_mem : ∀ {c : σ} {k : α}, k ∉ keys c → get c k = (false, c)
  /-- Pushing a new key: the keys are the new one and the old ones but the entry returned. -/
  mem_keys_push : ∀ {c : σ} {k : α}, k ∉ keys c → ∀ x,
    x ∈ keys (push c k).2 ↔ x = k ∨ (x ∈ keys c ∧ (push c k).1 ≠ some x)
  /-- The entry a push of a new key returns is an old key, not the new one. -/
  push_fst_mem : ∀ {c : σ} {k : α}, k ∉ keys c → ∀ {e : α}, (push c k).1 = some e →
    e ∈ keys c ∧ e ≠ k
  mem_keys_pop : ∀ (c : σ) (k x : α), x ∈ keys (pop c k) ↔ x ≠ k ∧ x ∈ keys c

attribute [simp] LawfulLruCache.keys_new LawfulLruCache.keys_clear LawfulLruCache.get_fst
  LawfulLruCache.mem_keys_get LawfulLruCache.mem_keys_pop

/-- The keys of an LRU cache, most recently used first. -/
structure Cache (α : Type) where
  keys : List α
  cap : Nat
  cap_pos : 0 < cap
  nodup : keys.Nodup
  length_le : keys.length ≤ cap

namespace Cache

variable {α : Type}

/-- An empty cache of capacity `cap`. -/
def empty (cap : Nat) (h : 0 < cap) : Cache α :=
  ⟨[], cap, h, List.nodup_nil, Nat.zero_le _⟩

/-- Remove every key. -/
def clear (c : Cache α) : Cache α :=
  ⟨[], c.cap, c.cap_pos, List.nodup_nil, Nat.zero_le _⟩

@[simp] theorem keys_empty (cap : Nat) (h : 0 < cap) : (empty cap h : Cache α).keys = [] :=
  rfl

@[simp] theorem keys_clear (c : Cache α) : c.clear.keys = [] :=
  rfl

/-- In a list of distinct keys, those before the last are the keys other than the last. -/
theorem mem_dropLast_of_nodup {l : List α} (hl : l.Nodup) {x : α} :
    x ∈ l.dropLast ↔ x ∈ l ∧ l.getLast? ≠ some x := by
  cases hlast : l.getLast? with
  | none => simp [List.getLast?_eq_none_iff.mp hlast]
  | some a =>
    obtain ⟨ys, rfl⟩ := List.getLast?_eq_some_iff.mp hlast
    have ha : a ∉ ys := fun h =>
      (List.nodup_append.mp hl).2.2 a h a (List.mem_singleton_self a) rfl
    rw [List.dropLast_concat, List.mem_append, List.mem_singleton]
    constructor
    · intro hx
      exact ⟨Or.inl hx, fun h => ha (Option.some.inj h ▸ hx)⟩
    · rintro ⟨hx | rfl, hne⟩
      · exact hx
      · exact absurd rfl hne

theorem length_cons_dropLast_le (c : Cache α) (k : α) (hfull : ¬ c.keys.length < c.cap) :
    (k :: c.keys.dropLast).length ≤ c.cap := by
  have := c.length_le
  have := c.cap_pos
  simp only [List.length_cons, List.length_dropLast]
  omega

theorem nodup_cons_dropLast (c : Cache α) {k : α} (hk : k ∉ c.keys) :
    (k :: c.keys.dropLast).Nodup :=
  (c.nodup.sublist (List.dropLast_sublist _)).cons fun h => hk (List.dropLast_subset _ h)

variable [DecidableEq α]

/-- Move a key of the cache to the front. -/
def promote (c : Cache α) (k : α) (hk : k ∈ c.keys) : Cache α where
  keys := k :: c.keys.erase k
  cap := c.cap
  cap_pos := c.cap_pos
  nodup := (c.nodup.erase k).cons (c.nodup.not_mem_erase)
  length_le := by
    have hpos := List.length_pos_of_mem hk
    have := c.length_le
    simp only [List.length_cons, List.length_erase_of_mem hk]
    omega

/-- Look a key up: whether it is there, and the cache with it promoted. -/
def get (c : Cache α) (k : α) : Bool × Cache α :=
  if hk : k ∈ c.keys then (true, c.promote k hk) else (false, c)

/-- Insert or promote a key. The entry returned is the key itself when it was there, the least
recently used key when the cache was full, and none otherwise. -/
def push (c : Cache α) (k : α) : Option α × Cache α :=
  if hk : k ∈ c.keys then (some k, c.promote k hk)
  else if hlen : c.keys.length < c.cap then
    (none, ⟨k :: c.keys, c.cap, c.cap_pos, c.nodup.cons hk, Nat.succ_le_of_lt hlen⟩)
  else
    (c.keys.getLast?, ⟨k :: c.keys.dropLast, c.cap, c.cap_pos, c.nodup_cons_dropLast hk,
      c.length_cons_dropLast_le k hlen⟩)

/-- Remove a key. -/
def pop (c : Cache α) (k : α) : Cache α :=
  ⟨c.keys.erase k, c.cap, c.cap_pos, c.nodup.erase k,
    Nat.le_trans List.length_erase_le c.length_le⟩

theorem mem_keys_promote {c : Cache α} {k : α} (hk : k ∈ c.keys) (x : α) :
    x ∈ (c.promote k hk).keys ↔ x ∈ c.keys := by
  simp only [promote, List.mem_cons]
  constructor
  · rintro (rfl | hx)
    · exact hk
    · exact List.mem_of_mem_erase hx
  · intro hx
    by_cases hxk : x = k
    · exact Or.inl hxk
    · exact Or.inr ((List.mem_erase_of_ne hxk).mpr hx)

@[simp] theorem get_fst (c : Cache α) (k : α) : (c.get k).1 = decide (k ∈ c.keys) := by
  unfold get
  split <;> simp_all

@[simp] theorem mem_keys_get (c : Cache α) (k x : α) : x ∈ (c.get k).2.keys ↔ x ∈ c.keys := by
  unfold get
  split
  case isTrue hk => exact mem_keys_promote hk x
  case isFalse => rfl

/-- `get` of a key the cache does not have changes nothing. -/
theorem get_of_not_mem {c : Cache α} {k : α} (hk : k ∉ c.keys) : c.get k = (false, c) := by
  simp [get, hk]

/-- Pushing a new key: the keys are the new one and the old ones but the entry returned. -/
theorem mem_keys_push {c : Cache α} {k : α} (hk : k ∉ c.keys) (x : α) :
    x ∈ (c.push k).2.keys ↔ x = k ∨ (x ∈ c.keys ∧ (c.push k).1 ≠ some x) := by
  unfold push
  rw [dif_neg hk]
  split
  · simp
  · simp only [List.mem_cons]
    rw [mem_dropLast_of_nodup c.nodup]

/-- The entry a push of a new key returns is an old key, not the new one. -/
theorem push_fst_mem {c : Cache α} {k : α} (hk : k ∉ c.keys) {e : α}
    (he : (c.push k).1 = some e) : e ∈ c.keys ∧ e ≠ k := by
  unfold push at he
  rw [dif_neg hk] at he
  split at he
  · cases he
  · obtain ⟨ys, hys⟩ := List.getLast?_eq_some_iff.mp he
    have hmem : e ∈ c.keys := by rw [hys]; simp
    exact ⟨hmem, fun h => hk (h ▸ hmem)⟩

@[simp] theorem mem_keys_pop (c : Cache α) (k x : α) : x ∈ (c.pop k).keys ↔ x ≠ k ∧ x ∈ c.keys :=
  c.nodup.mem_erase_iff

/-- The model as an `LruCache`. -/
instance lruCache : LruCache (Cache α) α :=
  ⟨empty, keys, get, push, pop, clear⟩

instance lawfulLruCache : LawfulLruCache (Cache α) α :=
  ⟨keys_empty, keys_clear, get_fst, mem_keys_get, get_of_not_mem, mem_keys_push, push_fst_mem,
    mem_keys_pop⟩

end Cache

end Lru
