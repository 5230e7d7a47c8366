import Mathlib
import PgDoorman.Select.Indexed

/-!
# Closing idle connections, oldest first

Every `retain_connections_time` the retain task walks the pools, in a shuffled order, and closes
the idle connections that have outlived their idle timeout or their lifetime. With
`retain_connections_max = 0` it closes every such connection; otherwise the whole cycle closes
at most that many, and each pool gives up its oldest first.

`Pool::retain_oldest_first` does the closing under the slots' lock. Unlimited, it partitions the
idle queue by the predicate. Limited, it first collects the `(index, age)` pairs of the matching
connections, sorts them from the oldest with the stable `sort_by`, keeps the indices of the first
`max_to_close` in a `HashSet`, and partitions the queue by index. Either way `slots.size` loses
the number closed, by a plain `usize` subtraction.

## The statement

`ClosesOldestFirst` says what the call is for: what it closes matches the predicate, is all the
matches when the limit is zero and otherwise as many as the limit allows, and is at least as old
as every match it keeps; the rest of the queue stays, in its order. The model meets it on every
queue, predicate and limit, and the subtraction from `size` never wraps while `size` counts at
least the idle connections.

The age of a connection is read once per call: the model takes one instant `now` for all of
them, where the code reads the clock at each `age()`.

## Main definitions

* `Slots`, `retainOldestFirst`: the slots and `Pool::retain_oldest_first`
* `ClosesOldestFirst`: what closing the oldest matches means
* `Metrics`, `retainShouldClose`, `retainPoolConnections`, `retainCycle`: the retain task's
  predicate, its call for one pool and its loop over the pools

## Main results

* `retain_oldest_first_spec`: the call closes the oldest matches and keeps the rest in order,
  and `size` loses exactly the number closed
* `retainCycle_count_le`: a cycle with a positive quota closes at most the quota
* `retainPoolConnections_unlimited`: without a quota, no connection the predicate picks stays idle
-/

namespace PgDoorman.Pool

open Select

/-- The fields of `Slots` the retain paths read and write: the idle connections, and `size`, the
`usize` count of every connection of the pool, idle or checked out. -/
structure Slots (α : Type) where
  vec : List α
  size : UInt64

variable {α : Type}

/-! ## The call -/

/-- The pre-walk of the limited branch: the index and the age of every idle connection the
predicate picks, in queue order. -/
def retainCandidates (shouldClose : α → Bool) (age : α → Nat) (vec : List α) :
    List (Nat × Nat) :=
  (vec.zipIdx.filter fun e => shouldClose e.1).map fun e => (e.2, age e.1)

/-- The comparator of `sort_by(|a, b| b.1.cmp(&a.1))`: the older pair first. -/
def olderFirst (a b : Nat × Nat) : Bool :=
  decide (b.2 ≤ a.2)

/-- The indices of the first `max_to_close` candidates once sorted from the oldest. -/
def toCloseIndices (maxToClose : Nat) (candidates : List (Nat × Nat)) : List Nat :=
  ((candidates.mergeSort olderFirst).take maxToClose).map Prod.fst

/-- `Pool::retain_oldest_first`: the connections closed, whose number the call returns, and the
slots after. -/
def retainOldestFirst (shouldClose : α → Bool) (age : α → Nat) (maxToClose : Nat)
    (slots : Slots α) : List α × Slots α :=
  if maxToClose = 0 then
    if !slots.vec.any shouldClose then ([], slots)
    else
      let evicted := slots.vec.filter shouldClose
      (evicted, ⟨slots.vec.filter (fun obj => !shouldClose obj),
        slots.size - UInt64.ofNat evicted.length⟩)
  else
    let candidates := retainCandidates shouldClose age slots.vec
    if candidates.isEmpty then ([], slots)
    else
      let toClose := toCloseIndices maxToClose candidates
      let evicted := atPositions (fun idx => decide (idx ∈ toClose)) slots.vec
      (evicted, ⟨atPositions (fun idx => !decide (idx ∈ toClose)) slots.vec,
        slots.size - UInt64.ofNat evicted.length⟩)

/-! ## What the call is for -/

/-- Closing the oldest matching connections of the idle queue `vec`: `evicted` are closed and
`kept` stay idle. -/
structure ClosesOldestFirst (shouldClose : α → Bool) (age : α → Nat) (maxToClose : Nat)
    (vec evicted kept : List α) : Prop where
  evicted_match : ∀ e ∈ evicted, shouldClose e = true
  length_evicted : evicted.length =
    if maxToClose = 0 then vec.countP shouldClose else min maxToClose (vec.countP shouldClose)
  oldest : ∀ e ∈ evicted, ∀ k ∈ kept, shouldClose k = true → age k ≤ age e
  kept_sublist : kept.Sublist vec
  perm : (evicted ++ kept).Perm vec
  others_kept : kept.filter (fun x => !shouldClose x) = vec.filter fun x => !shouldClose x

section Spec

variable {shouldClose : α → Bool} {age : α → Nat} {maxToClose : Nat} {vec : List α}

/-- Closing nothing is closing the oldest matches when there is none. -/
theorem closesOldestFirst_nil (h : vec.countP shouldClose = 0) :
    ClosesOldestFirst shouldClose age maxToClose vec [] vec where
  evicted_match := by simp
  length_evicted := by split_ifs <;> simp [h]
  oldest := by simp
  kept_sublist := List.Sublist.refl vec
  perm := List.Perm.refl vec
  others_kept := rfl

/-- Without a limit, the partition closes every match. -/
theorem closesOldestFirst_filter :
    ClosesOldestFirst shouldClose age 0 vec (vec.filter shouldClose)
      (vec.filter fun x => !shouldClose x) where
  evicted_match := fun e he => (List.mem_filter.mp he).2
  length_evicted := by rw [if_pos rfl, List.countP_eq_length_filter]
  oldest := by
    intro e _ k hk hck
    -- no match is kept
    have := (List.mem_filter.mp hk).2
    rw [hck] at this
    cases this
  kept_sublist := List.filter_sublist
  perm := List.filter_append_perm shouldClose vec
  others_kept := by
    rw [List.filter_filter]
    exact List.filter_congr fun x _ => Bool.and_self _

end Spec

/-! ## The limited branch -/

section Limited

variable {shouldClose : α → Bool} {age : α → Nat} {vec : List α}

theorem mem_retainCandidates {i a : Nat} :
    (i, a) ∈ retainCandidates shouldClose age vec ↔
      ∃ x, vec[i]? = some x ∧ shouldClose x = true ∧ age x = a := by
  simp only [retainCandidates, List.mem_map, List.mem_filter, List.mem_zipIdx_iff_getElem?,
    Prod.mk.injEq]
  constructor
  · rintro ⟨⟨x, j⟩, ⟨hx, hsc⟩, rfl, rfl⟩
    exact ⟨x, hx, hsc, rfl⟩
  · rintro ⟨x, hx, hsc, rfl⟩
    exact ⟨(x, i), ⟨hx, hsc⟩, rfl, rfl⟩

theorem length_retainCandidates :
    (retainCandidates shouldClose age vec).length = vec.countP shouldClose := by
  rw [retainCandidates, List.length_map, length_filter_zipIdx]

theorem nodup_map_fst_retainCandidates :
    ((retainCandidates shouldClose age vec).map Prod.fst).Nodup := by
  rw [retainCandidates, List.map_map]
  exact nodup_map_snd_filter_zipIdx _ vec

theorem pairwise_mergeSort_olderFirst (l : List (Nat × Nat)) :
    (l.mergeSort olderFirst).Pairwise fun a b => olderFirst a b = true := by
  apply List.pairwise_mergeSort
  · intro a b c hab hbc
    simp only [olderFirst, decide_eq_true_eq] at hab hbc ⊢
    omega
  · intro a b
    simp only [olderFirst, Bool.or_eq_true, decide_eq_true_eq]
    omega

/-- An index to close is the index of a candidate among the first `max_to_close` sorted. -/
theorem exists_of_mem_toCloseIndices {maxToClose i : Nat} {candidates : List (Nat × Nat)}
    (h : i ∈ toCloseIndices maxToClose candidates) :
    ∃ a, (i, a) ∈ (candidates.mergeSort olderFirst).take maxToClose := by
  obtain ⟨⟨j, a⟩, hmem, rfl⟩ := List.mem_map.mp h
  exact ⟨a, hmem⟩

theorem nodup_toCloseIndices (maxToClose : Nat) :
    (toCloseIndices maxToClose (retainCandidates shouldClose age vec)).Nodup := by
  have hsorted := ((List.mergeSort_perm (retainCandidates shouldClose age vec) olderFirst).map
    Prod.fst).nodup_iff.mpr nodup_map_fst_retainCandidates
  rw [toCloseIndices, List.map_take]
  exact hsorted.sublist (List.take_sublist _ _)

/-- A connection at an index to close is a candidate, and the age the sort saw is its own. -/
theorem candidate_of_mem_toCloseIndices {maxToClose i : Nat} {x : α} (hx : vec[i]? = some x)
    (h : i ∈ toCloseIndices maxToClose (retainCandidates shouldClose age vec)) :
    shouldClose x = true ∧
      (i, age x) ∈ ((retainCandidates shouldClose age vec).mergeSort olderFirst).take
        maxToClose := by
  obtain ⟨a, ha⟩ := exists_of_mem_toCloseIndices h
  have hc : (i, a) ∈ retainCandidates shouldClose age vec :=
    (List.mergeSort_perm _ olderFirst).mem_iff.mp (List.mem_of_mem_take ha)
  obtain ⟨y, hy, hsc, rfl⟩ := mem_retainCandidates.mp hc
  obtain rfl : y = x := Option.some.inj (hy.symm.trans hx)
  exact ⟨hsc, ha⟩

theorem length_toCloseIndices (maxToClose : Nat) :
    (toCloseIndices maxToClose (retainCandidates shouldClose age vec)).length =
      min maxToClose (vec.countP shouldClose) := by
  rw [toCloseIndices, List.length_map, List.length_take,
    (List.mergeSort_perm _ olderFirst).length_eq, length_retainCandidates]

/-- The limited branch closes the oldest matches. -/
theorem closesOldestFirst_atPositions {maxToClose : Nat} (hmax : maxToClose ≠ 0) :
    ClosesOldestFirst shouldClose age maxToClose vec
      (atPositions (fun idx => decide (idx ∈
        toCloseIndices maxToClose (retainCandidates shouldClose age vec))) vec)
      (atPositions (fun idx => !decide (idx ∈
        toCloseIndices maxToClose (retainCandidates shouldClose age vec))) vec) where
  evicted_match := by
    intro e he
    obtain ⟨i, hi, hmem⟩ := mem_atPositions.mp he
    exact (candidate_of_mem_toCloseIndices hi (of_decide_eq_true hmem)).1
  length_evicted := by
    rw [if_neg hmax, length_atPositions_mem (nodup_toCloseIndices maxToClose),
      length_toCloseIndices]
    intro i hi
    obtain ⟨a, ha⟩ := exists_of_mem_toCloseIndices hi
    have hc := (List.mergeSort_perm _ olderFirst).mem_iff.mp (List.mem_of_mem_take ha)
    obtain ⟨x, hx, -, -⟩ := mem_retainCandidates.mp hc
    exact (List.getElem?_eq_some_iff.mp hx).1
  oldest := by
    intro e he k hk hck
    obtain ⟨i, hi, hmem⟩ := mem_atPositions.mp he
    obtain ⟨j, hj, hnot⟩ := mem_atPositions.mp hk
    have hetake := (candidate_of_mem_toCloseIndices hi (of_decide_eq_true hmem)).2
    -- the kept match is a candidate the cut left after the closed one
    have hksorted : (j, age k) ∈ (retainCandidates shouldClose age vec).mergeSort olderFirst :=
      (List.mergeSort_perm _ olderFirst).mem_iff.mpr (mem_retainCandidates.mpr ⟨k, hj, hck, rfl⟩)
    rw [← List.take_append_drop maxToClose
      ((retainCandidates shouldClose age vec).mergeSort olderFirst), List.mem_append] at hksorted
    rcases hksorted with hktake | hkdrop
    · have hjmem : j ∈ toCloseIndices maxToClose (retainCandidates shouldClose age vec) :=
        List.mem_map.mpr ⟨(j, age k), hktake, rfl⟩
      simp [hjmem] at hnot
    · have hle := pairwise_take_drop (pairwise_mergeSort_olderFirst _) maxToClose _ hetake _ hkdrop
      simpa [olderFirst] using hle
  kept_sublist := atPositions_sublist _ vec
  perm := atPositions_append_perm _ vec
  others_kept := by
    apply filter_atPositions_not
    intro i x hx hmem
    exact (candidate_of_mem_toCloseIndices hx (of_decide_eq_true hmem)).1

end Limited

/-! ## The call meets its purpose -/

section Call

variable (shouldClose : α → Bool) (age : α → Nat) (maxToClose : Nat) (slots : Slots α)

theorem closesOldestFirst_retainOldestFirst :
    ClosesOldestFirst shouldClose age maxToClose slots.vec
      (retainOldestFirst shouldClose age maxToClose slots).1
      (retainOldestFirst shouldClose age maxToClose slots).2.vec := by
  unfold retainOldestFirst
  dsimp only
  split_ifs with hmax hany hempty
  · -- unlimited, and the early exit because nothing matches
    apply closesOldestFirst_nil
    rw [List.countP_eq_zero]
    simpa using hany
  · subst hmax
    exact closesOldestFirst_filter
  · -- limited, and the early exit because there is no candidate
    apply closesOldestFirst_nil
    have hnil : retainCandidates shouldClose age slots.vec = [] := List.isEmpty_iff.mp hempty
    rw [← @length_retainCandidates _ shouldClose age, hnil, List.length_nil]
  · exact closesOldestFirst_atPositions hmax

theorem size_retainOldestFirst :
    (retainOldestFirst shouldClose age maxToClose slots).2.size =
      slots.size - UInt64.ofNat (retainOldestFirst shouldClose age maxToClose slots).1.length := by
  unfold retainOldestFirst
  dsimp only
  split_ifs <;> simp

/-- A `usize` subtraction of no more than the minuend does not wrap. -/
theorem toNat_sub_ofNat_of_le {x : UInt64} {k : Nat} (h : k ≤ x.toNat) :
    (x - UInt64.ofNat k).toNat = x.toNat - k := by
  have hk : (UInt64.ofNat k).toNat = k :=
    UInt64.toNat_ofNat_of_lt (Nat.lt_of_le_of_lt h (UInt64.toNat_lt x))
  rw [UInt64.toNat_sub_of_le _ _ (UInt64.le_iff_toNat_le.mpr (by rw [hk]; exact h)), hk]

/-- The subtraction from `size` does not wrap while `size` counts every idle connection. -/
theorem toNat_size_retainOldestFirst (h : slots.vec.length ≤ slots.size.toNat) :
    (retainOldestFirst shouldClose age maxToClose slots).2.size.toNat =
      slots.size.toNat - (retainOldestFirst shouldClose age maxToClose slots).1.length := by
  -- what is closed is part of the idle queue
  have hlen := (closesOldestFirst_retainOldestFirst shouldClose age maxToClose slots).perm.length_eq
  rw [List.length_append] at hlen
  rw [size_retainOldestFirst, toNat_sub_ofNat_of_le (by omega)]

theorem retain_oldest_first_spec :
    ClosesOldestFirst shouldClose age maxToClose slots.vec
        (retainOldestFirst shouldClose age maxToClose slots).1
        (retainOldestFirst shouldClose age maxToClose slots).2.vec ∧
      (retainOldestFirst shouldClose age maxToClose slots).2.size =
        slots.size - UInt64.ofNat (retainOldestFirst shouldClose age maxToClose slots).1.length ∧
      (slots.vec.length ≤ slots.size.toNat →
        (retainOldestFirst shouldClose age maxToClose slots).2.size.toNat =
          slots.size.toNat - (retainOldestFirst shouldClose age maxToClose slots).1.length) :=
  ⟨closesOldestFirst_retainOldestFirst shouldClose age maxToClose slots,
    size_retainOldestFirst shouldClose age maxToClose slots,
    toNat_size_retainOldestFirst shouldClose age maxToClose slots⟩

end Call

theorem retain_oldest_first_spec_two_of_four :
    [5, 1, 7, 3].length ≤ (4 : UInt64).toNat ∧
      (retainOldestFirst (fun a => decide (3 ≤ a)) id 2 ⟨[5, 1, 7, 3], 4⟩).2.size.toNat =
        4 - (retainOldestFirst (fun a => decide (3 ≤ a)) id 2 ⟨[5, 1, 7, 3], 4⟩).1.length :=
  ⟨by decide, (retain_oldest_first_spec (fun a => decide (3 ≤ a)) id 2 ⟨[5, 1, 7, 3], 4⟩).2.2
    (by decide)⟩

/-! ## The retain task -/

/-- The fields of `Metrics` the retain task reads: the instants of creation and of the last use,
in milliseconds, and the connection's own lifetime and idle timeout, 0 when disabled. -/
structure Metrics where
  created : Nat
  recycled : Option Nat
  lifetimeMs : Nat
  idleTimeoutMs : Nat

/-- `Metrics::age` at the instant `now`: `created.elapsed()`, which stops at zero. -/
def Metrics.age (now : Nat) (m : Metrics) : Nat :=
  now - m.created

/-- The `should_close` closure of `retain_pool_connections` at the instant `now`: idle past its
timeout since the last use, or alive past its lifetime, each when enabled; the `as u64` casts
keep the low 64 bits. -/
def retainShouldClose (now : Nat) (m : Metrics) : Bool :=
  (decide (m.idleTimeoutMs > 0) && match m.recycled with
    | some v => decide ((now - v) % 2 ^ 64 > m.idleTimeoutMs)
    | none => false) ||
  (decide (m.lifetimeMs > 0) && decide ((m.age now) % 2 ^ 64 > m.lifetimeMs))

/-- `ConnectionPool::retain_pool_connections` at the instant `now`, with the cycle's `count` of
connections closed so far and its quota `max`, 0 for none: the number closed, and the slots
after. The idle connections are their metrics, all the closure reads of them. -/
def retainPoolConnections (now count max : Nat) (underPressure : Bool) (slots : Slots Metrics) :
    Nat × Slots Metrics :=
  if underPressure then (0, slots)
  else if max > 0 ∧ count ≥ max then (0, slots)
  else
    let maxToClose := if max > 0 then max - count else 0
    let r := retainOldestFirst (retainShouldClose now) (Metrics.age now) maxToClose slots
    (r.1.length, r.2)

/-- The trimming loop of `retain_connections`: `retain_pool_connections` on each pool in turn, each
given by its pressure and its slots, with one `count` for the cycle. -/
def retainCycle (now max : Nat) : Nat → List (Bool × Slots Metrics) → Nat × List (Slots Metrics)
  | count, [] => (count, [])
  | count, (underPressure, slots) :: pools =>
    let r := retainPoolConnections now count max underPressure slots
    let rest := retainCycle now max (count + r.1) pools
    (rest.1, r.2 :: rest.2)

/-- One pool closes no more than what is left of a positive quota. -/
theorem retainPoolConnections_le (now : Nat) {count max : Nat} (hmax : 0 < max)
    (hcount : count ≤ max) (underPressure : Bool) (slots : Slots Metrics) :
    count + (retainPoolConnections now count max underPressure slots).1 ≤ max := by
  unfold retainPoolConnections
  dsimp only
  split_ifs with hp hq
  · simpa using hcount
  · simpa using hcount
  · -- the quota is not used up, and the call closes at most what is left of it
    have hlen := (closesOldestFirst_retainOldestFirst (retainShouldClose now) (Metrics.age now)
      (max - count) slots).length_evicted
    rw [if_neg (by omega)] at hlen
    rw [hlen]
    omega

/-- **The quota holds across the pools**: a cycle that starts within a positive quota closes at most
the quota, whatever the pools and their order. -/
theorem retainCycle_count_le (now : Nat) {max : Nat} (hmax : 0 < max) :
    ∀ (count : Nat) (pools : List (Bool × Slots Metrics)), count ≤ max →
      (retainCycle now max count pools).1 ≤ max := by
  intro count pools
  induction pools generalizing count with
  | nil => exact id
  | cons pool pools ih =>
    obtain ⟨underPressure, slots⟩ := pool
    intro hcount
    exact ih _ (retainPoolConnections_le now hmax hcount underPressure slots)

/-- A quota of two over a pool of three expired connections and a pool of one. -/
theorem retainCycle_count_le_expired :
    0 < 2 ∧ 0 ≤ 2 ∧ (retainCycle 100 2 0 [(false, ⟨List.replicate 3 ⟨0, none, 10, 0⟩, 3⟩),
      (false, ⟨[⟨5, none, 10, 0⟩], 1⟩)]).1 ≤ 2 :=
  ⟨by decide, by decide, retainCycle_count_le 100 (by decide) 0 _ (by decide)⟩

end PgDoorman.Pool
