import Mathlib

/-!
# Maps kept as their entries sorted by key

A map over an ordered key type that is iterated in key order, as a B-tree map is, is modelled
by its entries in strictly increasing key order. `insert` walks the entries once: it places a new
key before the first larger one and replaces the value of a key already there. It keeps the
order, a lookup after it answers the new value for its key and the old answer for every other,
and a run of insertions answers, for each key, the value of the last entry inserted with it.

## Main definitions

* `SortedMap.insert k v es`: the entries `es` with `k` mapped to `v`

## Main results

* `sorted_insert`: insertion keeps the entries strictly sorted
* `lookup_insert`: a lookup after an insertion, with no hypothesis on the entries
* `lookup_map_fst`: a lookup among entries whose keys went through a function
* `mem_foldl_insert`, `lookup_foldl_insert`: what a run of insertions leaves
* `foldl_insert_nil_of_sorted`: inserting sorted entries one by one rebuilds them
-/

namespace SortedMap

variable {α β : Type} [LinearOrder α]

/-- Insert `k ↦ v` into entries sorted by key, replacing the value of `k` if it is there. -/
def insert (k : α) (v : β) : List (α × β) → List (α × β)
  | [] => [(k, v)]
  | e :: es =>
    if k < e.1 then (k, v) :: e :: es
    else if k = e.1 then (k, v) :: es
    else e :: insert k v es

theorem mem_of_mem_insert {k : α} {v : β} {es : List (α × β)} {e : α × β}
    (h : e ∈ insert k v es) : e = (k, v) ∨ e ∈ es := by
  induction es with
  | nil => simpa [insert] using h
  | cons e' es ih =>
    rw [insert] at h
    split_ifs at h with hlt heq
    · simpa using h
    · rcases List.mem_cons.mp h with h | h
      · exact .inl h
      · exact .inr (List.mem_cons_of_mem _ h)
    · rcases List.mem_cons.mp h with h | h
      · exact .inr (h ▸ List.mem_cons_self)
      · rcases ih h with h | h
        · exact .inl h
        · exact .inr (List.mem_cons_of_mem _ h)

theorem sorted_insert (k : α) (v : β) {es : List (α × β)}
    (h : es.Pairwise fun a b => a.1 < b.1) :
    (insert k v es).Pairwise fun a b => a.1 < b.1 := by
  induction es with
  | nil => simp [insert]
  | cons e es ih =>
    have hes : ∀ a ∈ es, e.1 < a.1 := fun a ha => List.rel_of_pairwise_cons h ha
    rw [insert]
    split_ifs with hlt heq
    · -- the new key goes first: below `e`, so below every key after it
      refine h.cons fun a ha => ?_
      rcases List.mem_cons.mp ha with rfl | ha
      · exact hlt
      · exact hlt.trans (hes _ ha)
    · -- the new entry takes `e`'s place, with `e`'s key
      exact h.of_cons.cons fun a ha => heq ▸ hes _ ha
    · -- the new key goes further on: `e` stays first, below the new key and the rest
      have hgt : e.1 < k := lt_of_le_of_ne (not_lt.mp hlt) (Ne.symm heq)
      refine (ih h.of_cons).cons fun a ha => ?_
      rcases mem_of_mem_insert ha with rfl | ha
      · exact hgt
      · exact hes _ ha

section Lookup

variable [BEq α] [LawfulBEq α]

omit [LinearOrder α] in
theorem lookup_cons_of_ne {k k' : α} {b : β} (es : List (α × β)) (h : k' ≠ k) :
    ((k, b) :: es).lookup k' = es.lookup k' := by
  rw [List.lookup_cons, beq_eq_false_iff_ne.mpr h]

theorem lookup_insert_self (k : α) (v : β) (es : List (α × β)) :
    (insert k v es).lookup k = some v := by
  induction es with
  | nil => exact List.lookup_cons_self
  | cons e es ih =>
    obtain ⟨ek, ev⟩ := e
    rw [insert]
    split_ifs with hlt heq
    · exact List.lookup_cons_self
    · exact List.lookup_cons_self
    · rw [lookup_cons_of_ne _ heq, ih]

theorem lookup_insert_of_ne {k k' : α} (v : β) (es : List (α × β)) (hk : k' ≠ k) :
    (insert k v es).lookup k' = es.lookup k' := by
  induction es with
  | nil => exact lookup_cons_of_ne [] hk
  | cons e es ih =>
    obtain ⟨ek, ev⟩ := e
    rw [insert]
    split_ifs with hlt heq
    · rw [lookup_cons_of_ne _ hk]
    · -- the entry replaced had the new key, so it answered no other key
      rw [lookup_cons_of_ne _ hk, lookup_cons_of_ne _ fun h => hk (h.trans heq.symm)]
    · rw [List.lookup_cons, List.lookup_cons, ih]

omit [LinearOrder α] [LawfulBEq α] in
/-- A lookup among entries whose keys went through a function finds the first entry whose key
goes to the key looked up. -/
theorem lookup_map_fst {γ : Type} (f : γ → α) (es : List (γ × β)) (k : α) :
    (es.map fun e => (f e.1, e.2)).lookup k = (es.find? fun e => k == f e.1).map Prod.snd := by
  induction es with
  | nil => rfl
  | cons e es ih =>
    rw [List.map_cons, List.lookup_cons, List.find?_cons]
    cases k == f e.1
    · exact ih
    · rfl

/-- A lookup after an insertion: the new value for its key, the old answer for every other. -/
theorem lookup_insert (k : α) (v : β) (es : List (α × β)) (k' : α) :
    (insert k v es).lookup k' = if k' = k then some v else es.lookup k' := by
  split_ifs with hk
  · rw [hk, lookup_insert_self]
  · exact lookup_insert_of_ne v es hk

end Lookup

/-! ## Runs of insertions -/

/-- Every entry a run of insertions leaves was there before or was inserted. -/
theorem mem_foldl_insert {kvs es : List (α × β)} {e : α × β}
    (h : e ∈ kvs.foldl (fun es kv => insert kv.1 kv.2 es) es) : e ∈ es ∨ e ∈ kvs := by
  induction kvs generalizing es with
  | nil => exact .inl h
  | cons kv kvs ih =>
    rcases ih h with h | h
    · rcases mem_of_mem_insert h with rfl | h
      · exact .inr List.mem_cons_self
      · exact .inl h
    · exact .inr (List.mem_cons_of_mem _ h)

/-- A run of insertions answers, for each key, the value of the last entry inserted with it,
and the old answer for a key it never inserted. -/
theorem lookup_foldl_insert [BEq α] [LawfulBEq α] (kvs es : List (α × β)) (k : α) :
    (kvs.foldl (fun es kv => insert kv.1 kv.2 es) es).lookup k =
      (kvs.reverse.lookup k).or (es.lookup k) := by
  induction kvs generalizing es with
  | nil => simp
  | cons kv kvs ih =>
    obtain ⟨k', v'⟩ := kv
    rw [List.foldl_cons, ih, lookup_insert, List.reverse_cons, List.lookup_append]
    by_cases hk : k = k'
    · -- the last entry of `k` is this one unless a later one has the key
      subst hk
      rw [if_pos rfl, List.lookup_cons_self]
      cases kvs.reverse.lookup k <;> rfl
    · rw [if_neg hk, lookup_cons_of_ne [] hk]
      cases kvs.reverse.lookup k <;> rfl

/-- A key above every key present goes last. -/
theorem insert_of_lt {k : α} {v : β} {es : List (α × β)} (h : ∀ e ∈ es, e.1 < k) :
    insert k v es = es ++ [(k, v)] := by
  induction es with
  | nil => rfl
  | cons e es ih =>
    have he : e.1 < k := h e List.mem_cons_self
    rw [insert, if_neg (not_lt.mpr he.le), if_neg (ne_of_gt he),
      ih fun a ha => h a (List.mem_cons_of_mem _ ha)]
    rfl

/-- Sorted entries inserted one by one after smaller keys are appended in order. -/
theorem foldl_insert_of_sorted {acc es : List (α × β)} (hes : es.Pairwise fun a b => a.1 < b.1)
    (hacc : ∀ a ∈ acc, ∀ e ∈ es, a.1 < e.1) :
    es.foldl (fun es kv => insert kv.1 kv.2 es) acc = acc ++ es := by
  induction es generalizing acc with
  | nil => simp
  | cons e es ih =>
    -- `e` is above everything inserted so far, and below everything after it
    have hlast : insert e.1 e.2 acc = acc ++ [e] := insert_of_lt fun a ha => hacc a ha e List.mem_cons_self
    rw [List.foldl_cons, hlast, ih hes.of_cons]
    · simp
    · intro a ha e' he'
      rcases List.mem_append.mp ha with ha | ha
      · exact hacc a ha e' (List.mem_cons_of_mem _ he')
      · rw [List.mem_singleton.mp ha]
        exact List.rel_of_pairwise_cons hes he'

theorem foldl_insert_nil_of_sorted {es : List (α × β)} (hes : es.Pairwise fun a b => a.1 < b.1) :
    es.foldl (fun es kv => insert kv.1 kv.2 es) [] = es :=
  foldl_insert_of_sorted hes (fun a ha => by cases ha)

end SortedMap
