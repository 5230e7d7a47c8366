import Mathlib
import PgDoorman.Transition.Run

/-!
# Server parameters

`src/server/parameters.rs` keeps a backend's session parameters as a `HashMap` of canonical
names to values, together with a memoised planner hash: the digest of the planner-relevant
entries that becomes part of the prepared-statement cache key. Writes that can change the
planner entries reset the memo to the sentinel `u64::MAX`; `planner_param_hash` recomputes it
when it finds the sentinel. At checkout, `Server::sync_parameters` diffs the backend's snapshot
against the client's with `compare_params`, drops the operator-managed names, sends the
`SET`/`RESET` query and mirrors its actions into the snapshot.

A `HashMap` is an `AList`: its iteration order is unspecified, and the results below hold for
every order (`applyParamActions` is taken over any permutation of the actions). The digest,
`Xxh3` over the sorted entries and their count, is a parameter.

## Main definitions

* `canonicalizeParamName`, `isPlannerKey`, `isSetForbidden`
* `ServerParameters` with `setParam`, `setFromHashmap`, `removeParam`, `clone` and
  `plannerParamHash`; `plannerHash`, the planner hash recomputed without the cache
* `compareParams`, `syncActions`, `applyParamActions`: the checkout sync

## Main results

* `plannerEntries_congr`: the sorted planner entries depend only on the planner lookups
* `cacheFresh_step`, `plannerParamHash_fresh`: after any sequence of operations, the planner
  hash returned is the recomputed one
* `lookup_compareParams`: `compare_params` emits, for each name not forbidden, the action that
  makes the backend's value the client's, and only where they differ
* `sync_parameters_converges`: mirroring the kept actions in any order makes the backend agree
  with the client on every name neither forbidden nor managed, and leaves the others alone
-/

namespace PgDoorman.Server

/-! ## Parameter names -/

/-- `TRACKED_PARAMETERS`: the names PostgreSQL reports in ParameterStatus, in its spelling. -/
def trackedParameters : List String :=
  ["client_encoding", "DateStyle", "IntervalStyle", "TimeZone", "standard_conforming_strings",
    "application_name"]

/-- `SET_FORBIDDEN_PARAMETERS`. -/
def setForbiddenParameters : List String :=
  ["is_superuser", "session_authorization", "server_version", "server_version_num",
    "server_encoding", "integer_datetimes", "in_hot_standby", "session_user", "current_user",
    "block_size", "wal_block_size", "wal_segment_size", "max_index_keys",
    "max_identifier_length", "max_function_args", "data_checksums", "data_directory_mode",
    "lc_collate", "lc_ctype", "transaction_isolation", "transaction_read_only",
    "transaction_deferrable", "user", "database", "replication", "options"]

/-- `PLANNER_KEYS`, in canonical form. -/
def plannerKeys : List String :=
  ["search_path", "default_transaction_isolation", "default_transaction_read_only",
    "default_text_search_config", "role"]

/-- `is_planner_key`. -/
def isPlannerKey (name : String) : Bool :=
  plannerKeys.contains name

/-- `is_set_forbidden`. -/
def isSetForbidden (name : String) : Bool :=
  setForbiddenParameters.contains name

/-- `str::to_ascii_lowercase`: `Char.toLower` lowers the ASCII capitals only. -/
def toAsciiLowercase (s : String) : String :=
  String.ofList (s.toList.map Char.toLower)

/-- `str::eq_ignore_ascii_case`: equal once the ASCII capitals are lowered. -/
def eqIgnoreAsciiCase (a b : String) : Bool :=
  a.toList.map Char.toLower == b.toList.map Char.toLower

/-- `canonicalize_param_name`: a tracked name in PostgreSQL's spelling, any other name folded to
ASCII lower case. At most one tracked name matches, so the order the `HashSet` is searched in
does not matter. -/
def canonicalizeParamName (key : String) : String :=
  match trackedParameters.find? (eqIgnoreAsciiCase key) with
  | some tracked => tracked
  | none => if key.toList.any Char.isUpper then toAsciiLowercase key else key

example : canonicalizeParamName "DATESTYLE" = "DateStyle" := by decide

example : canonicalizeParamName "Search_Path" = "search_path" := by decide

/-! ## The snapshot and its memoised planner hash -/

/-- `PLANNER_HASH_UNSET`, `u64::MAX`: the planner hash has not been computed. -/
def plannerHashUnset : UInt64 :=
  0xFFFFFFFFFFFFFFFF

/-- `ServerParameters`: the parameters and the planner hash cache. -/
structure ServerParameters where
  parameters : AList (fun _ : String => String)
  plannerHashCache : UInt64
  deriving DecidableEq

namespace ServerParameters

/-- `ServerParameters::new`. -/
def new : ServerParameters :=
  ⟨∅, plannerHashUnset⟩

/-- `Clone for ServerParameters`: the parameters, and a cache to be recomputed. -/
def clone (s : ServerParameters) : ServerParameters :=
  ⟨s.parameters, plannerHashUnset⟩

/-- `set_param`: without `startup`, only tracked names are kept. Returns whether a planner entry
changed, in which case the cache is reset. -/
def setParam (s : ServerParameters) (key value : String) (startup : Bool) :
    Bool × ServerParameters :=
  let key := canonicalizeParamName key
  if trackedParameters.contains key || startup then
    let plannerRelevant := isPlannerKey key
    let changed := match s.parameters.lookup key with
      | some existing => existing != value
      | none => true
    let parameters := s.parameters.insert key value
    if plannerRelevant && changed then (true, ⟨parameters, plannerHashUnset⟩)
    else (false, { s with parameters })
  else (false, s)

/-- `set_from_hashmap`: `set_param` on each entry, in the map's iteration order. -/
def setFromHashmap (s : ServerParameters) (parameters : List (String × String))
    (startup : Bool) : Bool × ServerParameters :=
  parameters.foldl (fun acc kv =>
    let r := acc.2.setParam kv.1 kv.2 startup
    (acc.1 || r.1, r.2)) (false, s)

/-- `remove_param`: the cache is reset when a planner entry was removed. -/
def removeParam (s : ServerParameters) (key : String) : ServerParameters :=
  let canonical := canonicalizeParamName key
  if (s.parameters.lookup canonical).isSome && isPlannerKey canonical then
    ⟨s.parameters.erase canonical, plannerHashUnset⟩
  else { s with parameters := s.parameters.erase canonical }

end ServerParameters

/-- The planner entries in the map's iteration order (`iter().filter(..).collect()`). -/
def plannerPairs (parameters : AList (fun _ : String => String)) : List (String × String) :=
  (parameters.entries.filter fun e => isPlannerKey e.1).map fun e => (e.1, e.2)

/-- The planner entries sorted by name (`entries.sort_by(|a, b| a.0.cmp(b.0))`). Rust orders
strings by their UTF-8 bytes, which is the order of their code points, as `String` is ordered
here. -/
def plannerEntries (parameters : AList (fun _ : String => String)) : List (String × String) :=
  (plannerPairs parameters).mergeSort fun a b => decide (a.1 ≤ b.1)

/-- The digest kept off `0`, the hash of no planner state, and off the sentinel. -/
def plannerHashAdjust (h : UInt64) : UInt64 :=
  if h = 0 then 1 else if h = plannerHashUnset then plannerHashUnset - 1 else h

section PlannerHash

variable (digest : List (String × String) → UInt64)

/-- The planner hash recomputed without the cache: `0` when no planner name is set, otherwise
the adjusted digest of the sorted planner entries. -/
def plannerHash (parameters : AList (fun _ : String => String)) : UInt64 :=
  if (plannerEntries parameters).isEmpty then 0
  else plannerHashAdjust (digest (plannerEntries parameters))

/-- `planner_param_hash`: the cached value unless it is the sentinel, otherwise the hash
computed and stored. -/
def ServerParameters.plannerParamHash (s : ServerParameters) : UInt64 × ServerParameters :=
  if s.plannerHashCache != plannerHashUnset then (s.plannerHashCache, s) else
  let entries := plannerPairs s.parameters
  if entries.isEmpty then (0, { s with plannerHashCache := 0 }) else
  let h := plannerHashAdjust (digest (entries.mergeSort fun a b => decide (a.1 ≤ b.1)))
  (h, { s with plannerHashCache := h })

/-- The operations on a snapshot. -/
inductive ParamsOp where
  | setParam (key value : String) (startup : Bool)
  | setFromHashmap (parameters : List (String × String)) (startup : Bool)
  | removeParam (key : String)
  | clone
  | plannerParamHash
  deriving Repr, DecidableEq

/-- One operation on a snapshot; `clone` continues with the clone, the original being left
as it was. -/
def paramsStep (s : ServerParameters) : ParamsOp → Option ServerParameters
  | .setParam key value startup => some (s.setParam key value startup).2
  | .setFromHashmap parameters startup => some (s.setFromHashmap parameters startup).2
  | .removeParam key => some (s.removeParam key)
  | .clone => some s.clone
  | .plannerParamHash => some (s.plannerParamHash digest).2

end PlannerHash

/-! ## The planner entries -/

theorem mem_plannerPairs {parameters : AList (fun _ : String => String)} {k v : String} :
    (k, v) ∈ plannerPairs parameters ↔ isPlannerKey k = true ∧ parameters.lookup k = some v := by
  simp only [plannerPairs, List.mem_map, List.mem_filter, Prod.mk.injEq]
  constructor
  · rintro ⟨⟨k', v'⟩, ⟨hmem, hk⟩, rfl, rfl⟩
    exact ⟨hk, AList.mem_lookup_iff.mpr hmem⟩
  · rintro ⟨hk, hv⟩
    exact ⟨⟨k, v⟩, ⟨AList.mem_lookup_iff.mp hv, hk⟩, rfl, rfl⟩

/-- A name occurs once among the planner entries, as in the map. -/
theorem nodup_keys_plannerPairs (parameters : AList (fun _ : String => String)) :
    ((plannerPairs parameters).map Prod.fst).Nodup := by
  rw [plannerPairs, List.map_map]
  exact parameters.nodupKeys.sublist List.filter_sublist

/-- Sorted with no name repeated, the planner entries are strictly increasing by name. -/
theorem pairwise_plannerEntries (parameters : AList (fun _ : String => String)) :
    (plannerEntries parameters).Pairwise fun a b => a.1 < b.1 := by
  have hperm := List.mergeSort_perm (plannerPairs parameters) fun a b => decide (a.1 ≤ b.1)
  have hle : (plannerEntries parameters).Pairwise fun a b => decide (a.1 ≤ b.1) = true :=
    @List.pairwise_mergeSort _ (fun a b => decide (a.1 ≤ b.1))
      (fun (_ _ _ : String × String) hab hbc => decide_eq_true
        (le_trans (of_decide_eq_true hab) (of_decide_eq_true hbc)))
      (fun (a b : String × String) => by simpa using le_total a.1 b.1) _
  have hne : (plannerEntries parameters).Pairwise fun a b => a.1 ≠ b.1 :=
    List.pairwise_map.mp ((hperm.map Prod.fst).nodup_iff.mpr (nodup_keys_plannerPairs parameters))
  exact (hle.and hne).imp fun h => lt_of_le_of_ne (of_decide_eq_true h.1) h.2

/-- **The sorted planner entries depend only on the planner lookups**: sorting makes them
independent of the order the map was filled in. -/
theorem plannerEntries_congr {p q : AList (fun _ : String => String)}
    (h : ∀ k, isPlannerKey k = true → p.lookup k = q.lookup k) :
    plannerEntries p = plannerEntries q := by
  have hpairs : (plannerPairs p).Perm (plannerPairs q) := by
    refine (List.perm_ext_iff_of_nodup (nodup_keys_plannerPairs p).of_map
      (nodup_keys_plannerPairs q).of_map).mpr ?_
    rintro ⟨k, v⟩
    rw [mem_plannerPairs, mem_plannerPairs]
    exact ⟨fun ⟨hk, hv⟩ => ⟨hk, h k hk ▸ hv⟩, fun ⟨hk, hv⟩ => ⟨hk, (h k hk).symm ▸ hv⟩⟩
  refine List.Perm.eq_of_pairwise ?_ (pairwise_plannerEntries p) (pairwise_plannerEntries q) ?_
  · intro a b _ _ hab hba
    exact absurd (hab.trans hba) (lt_irrefl _)
  · exact (List.mergeSort_perm _ _).trans (hpairs.trans (List.mergeSort_perm _ _).symm)

theorem plannerHash_congr (digest : List (String × String) → UInt64)
    {p q : AList (fun _ : String => String)}
    (h : ∀ k, isPlannerKey k = true → p.lookup k = q.lookup k) :
    plannerHash digest p = plannerHash digest q := by
  rw [plannerHash, plannerHash, plannerEntries_congr h]

/-! ## The cache stays fresh -/

/-- Inserting a value leaves the planner lookups alone when the name is no planner name, or
already holds that value. -/
theorem lookup_insert_of_unchanged {p : AList (fun _ : String => String)} {key value : String}
    (h : isPlannerKey key = false ∨ p.lookup key = some value) (k : String)
    (hk : isPlannerKey k = true) : (p.insert key value).lookup k = p.lookup k := by
  by_cases hkey : k = key
  · subst hkey
    rcases h with h | h
    · simp [hk] at h
    · rw [AList.lookup_insert, h]
  · exact AList.lookup_insert_ne hkey

/-- Erasing a name leaves the planner lookups alone when it is no planner name, or is absent. -/
theorem lookup_erase_of_unchanged {p : AList (fun _ : String => String)} {key : String}
    (h : isPlannerKey key = false ∨ p.lookup key = none) (k : String)
    (hk : isPlannerKey k = true) : (p.erase key).lookup k = p.lookup k := by
  by_cases hkey : k = key
  · subst hkey
    rcases h with h | h
    · simp [hk] at h
    · rw [AList.lookup_erase, h]
  · exact AList.lookup_erase_ne hkey

section Fresh

variable (digest : List (String × String) → UInt64)

/-- The cache holds the sentinel or the planner hash of the current parameters. -/
def CacheFresh (s : ServerParameters) : Prop :=
  s.plannerHashCache = plannerHashUnset ∨ s.plannerHashCache = plannerHash digest s.parameters

variable {digest}

theorem cacheFresh_new : CacheFresh digest ServerParameters.new :=
  Or.inl rfl

theorem cacheFresh_clone (s : ServerParameters) : CacheFresh digest s.clone :=
  Or.inl rfl

/-- A kept parameter map with a kept cache: the planner lookups did not change. -/
theorem CacheFresh.of_parameters {s : ServerParameters}
    {parameters : AList (fun _ : String => String)} (hs : CacheFresh digest s)
    (h : ∀ k, isPlannerKey k = true → parameters.lookup k = s.parameters.lookup k) :
    CacheFresh digest { s with parameters } := by
  rcases hs with hs | hs
  · exact Or.inl hs
  · exact Or.inr (hs.trans (plannerHash_congr digest h).symm)

theorem cacheFresh_setParam {s : ServerParameters} (hs : CacheFresh digest s)
    (key value : String) (startup : Bool) : CacheFresh digest (s.setParam key value startup).2 := by
  unfold ServerParameters.setParam
  dsimp only
  split_ifs with hkept hreset
  · exact Or.inl rfl
  · -- no planner entry changed: the name is no planner name, or had the value already
    refine hs.of_parameters (lookup_insert_of_unchanged ?_)
    cases hplanner : isPlannerKey (canonicalizeParamName key)
    · exact Or.inl rfl
    · right
      cases hlookup : s.parameters.lookup (canonicalizeParamName key) with
      | none => simp [hplanner, hlookup] at hreset
      | some existing =>
        simp only [hplanner, hlookup, Bool.true_and, bne_iff_ne, ne_eq, Decidable.not_not] at hreset
        rw [hreset]
  · exact hs

theorem cacheFresh_setFromHashmap {s : ServerParameters} (hs : CacheFresh digest s)
    (parameters : List (String × String)) (startup : Bool) :
    CacheFresh digest (s.setFromHashmap parameters startup).2 := by
  unfold ServerParameters.setFromHashmap
  -- the loop keeps the invariant of the snapshot it carries
  suffices h : ∀ (acc : Bool × ServerParameters), CacheFresh digest acc.2 →
      CacheFresh digest (parameters.foldl (fun acc kv =>
        ((acc.1 || (acc.2.setParam kv.1 kv.2 startup).1), (acc.2.setParam kv.1 kv.2 startup).2))
        acc).2 from h (false, s) hs
  induction parameters with
  | nil => exact fun _ h => h
  | cons kv rest ih => exact fun acc h => ih _ (cacheFresh_setParam h kv.1 kv.2 startup)

theorem cacheFresh_removeParam {s : ServerParameters} (hs : CacheFresh digest s) (key : String) :
    CacheFresh digest (s.removeParam key) := by
  unfold ServerParameters.removeParam
  dsimp only
  split_ifs with hreset
  · exact Or.inl rfl
  · refine hs.of_parameters (lookup_erase_of_unchanged ?_)
    cases hlookup : s.parameters.lookup (canonicalizeParamName key) with
    | none => exact Or.inr rfl
    | some existing => simpa [hlookup] using hreset

/-- What `planner_param_hash` computes on a missing cache is the recomputed hash. -/
theorem plannerHash_eq_computed (parameters : AList (fun _ : String => String)) :
    plannerHash digest parameters = if (plannerPairs parameters).isEmpty then 0
      else plannerHashAdjust (digest (plannerEntries parameters)) := by
  have hlen := (List.mergeSort_perm (plannerPairs parameters) fun a b => decide (a.1 ≤ b.1)).length_eq
  have hempty : (plannerEntries parameters).isEmpty = (plannerPairs parameters).isEmpty := by
    rw [Bool.eq_iff_iff, List.isEmpty_iff, List.isEmpty_iff, ← List.length_eq_zero_iff,
      ← List.length_eq_zero_iff, plannerEntries, hlen]
  rw [plannerHash, hempty]

/-- **A call of `planner_param_hash` on a fresh cache returns the recomputed hash**, and leaves
the cache fresh. -/
theorem plannerParamHash_spec {s : ServerParameters} (hs : CacheFresh digest s) :
    (s.plannerParamHash digest).1 = plannerHash digest s.parameters ∧
      CacheFresh digest (s.plannerParamHash digest).2 := by
  unfold ServerParameters.plannerParamHash
  by_cases hcached : (s.plannerHashCache != plannerHashUnset) = true
  · -- the cache is set, so it holds the hash
    rw [if_pos hcached]
    exact ⟨hs.resolve_left (by simpa using hcached), hs⟩
  · -- the hash is computed, stored and returned
    rw [if_neg hcached]
    have hcomputed : plannerHash digest s.parameters = _ := plannerHash_eq_computed s.parameters
    by_cases hempty : (plannerPairs s.parameters).isEmpty = true
    · rw [if_pos hempty]
      exact ⟨by rw [hcomputed, if_pos hempty], Or.inr (by dsimp only; rw [hcomputed, if_pos hempty])⟩
    · rw [if_neg hempty]
      exact ⟨by rw [hcomputed, if_neg hempty]; rfl,
        Or.inr (by dsimp only; rw [hcomputed, if_neg hempty]; rfl)⟩

/-- **Every operation keeps the cache fresh.** -/
theorem cacheFresh_step (s : ServerParameters) (op : ParamsOp) (s' : ServerParameters)
    (hs : CacheFresh digest s) (hstep : paramsStep digest s op = some s') : CacheFresh digest s' := by
  cases op with
  | setParam key value startup => exact Option.some.inj hstep ▸ cacheFresh_setParam hs key value startup
  | setFromHashmap parameters startup =>
    exact Option.some.inj hstep ▸ cacheFresh_setFromHashmap hs parameters startup
  | removeParam key => exact Option.some.inj hstep ▸ cacheFresh_removeParam hs key
  | clone => exact Option.some.inj hstep ▸ cacheFresh_clone s
  | plannerParamHash => exact Option.some.inj hstep ▸ (plannerParamHash_spec hs).2

/-- **The cached planner hash never goes stale.** After any sequence of operations from a new
snapshot, `planner_param_hash` returns the planner hash recomputed from the parameters. -/
theorem plannerParamHash_fresh {s : ServerParameters}
    (hs : Transition.Reachable (paramsStep digest) ServerParameters.new s) :
    (s.plannerParamHash digest).1 = plannerHash digest s.parameters :=
  (plannerParamHash_spec (Transition.Invariant.holds ⟨cacheFresh_new, cacheFresh_step⟩ hs)).1

/-- The hash returned after a planner name is set, hashed and removed again. -/
theorem plannerParamHash_fresh_after_reset :
    let digest : List (String × String) → UInt64 := fun entries => entries.length.toUInt64
    let s := ((ServerParameters.new.setParam "search_path" "public" true).2.plannerParamHash
      digest).2.removeParam "SEARCH_PATH"
    (s.plannerParamHash digest).1 = plannerHash digest s.parameters :=
  plannerParamHash_fresh (Transition.Reachable.step (.removeParam "SEARCH_PATH")
    (Transition.Reachable.step .plannerParamHash
      (Transition.Reachable.step (.setParam "search_path" "public" true) .init rfl) rfl) rfl)

end Fresh

/-! ## Checkout sync -/

/-- `ParamAction`. -/
inductive ParamAction where
  | setTo (value : String)
  | reset
  deriving Repr, DecidableEq

/-- The value a name has once an action is mirrored. -/
def ParamAction.result : ParamAction → Option String
  | .setTo value => some value
  | .reset => none

/-- The first pass of `compare_params`: a `SetTo` for each client entry the backend lacks or
holds with another value, forbidden names skipped. -/
def setActions (backend : AList (fun _ : String => String))
    (diff : AList (fun _ : String => ParamAction)) :
    List (Σ _ : String, String) → AList (fun _ : String => ParamAction)
  | [] => diff
  | ⟨key, clientValue⟩ :: rest =>
    let diff :=
      if isSetForbidden key then diff else
      match backend.lookup key with
      | some backendValue => if backendValue = clientValue then diff
        else diff.insert key (.setTo clientValue)
      | none => diff.insert key (.setTo clientValue)
    setActions backend diff rest

/-- The second pass of `compare_params`: a `Reset` for each backend name the client lacks,
forbidden names skipped. -/
def resetActions (incoming : AList (fun _ : String => String))
    (diff : AList (fun _ : String => ParamAction)) : List String →
    AList (fun _ : String => ParamAction)
  | [] => diff
  | key :: rest =>
    let diff :=
      if isSetForbidden key then diff
      else if key ∈ incoming then diff else diff.insert key .reset
    resetActions incoming diff rest

/-- `compare_params`: the backend snapshot (`s`) against the client's. -/
def ServerParameters.compareParams (s incoming : ServerParameters) :
    AList (fun _ : String => ParamAction) :=
  resetActions incoming.parameters (setActions s.parameters ∅ incoming.parameters.entries)
    s.parameters.keys

/-- The actions `sync_parameters` keeps: `compare_params` without the operator-managed names. -/
def syncActions (backend client : ServerParameters) (managed : List String) :
    List (Σ _ : String, ParamAction) :=
  (backend.compareParams client).entries.filter fun e => decide (e.1 ∉ managed)

/-- Mirroring the actions after the query succeeded: `set_param(key, value, true)` for a
`SetTo`, `remove_param(key)` for a `Reset`, in the map's iteration order. -/
def ServerParameters.applyParamActions (s : ServerParameters) :
    List (Σ _ : String, ParamAction) → ServerParameters
  | [] => s
  | ⟨key, .setTo value⟩ :: rest => ((s.setParam key value true).2).applyParamActions rest
  | ⟨key, .reset⟩ :: rest => (s.removeParam key).applyParamActions rest

/-- The action that takes a name from the backend's value to the client's: none when they
agree, a `SetTo` of the client's value, or a `Reset` when the client has none. -/
def diffAction (backend client : Option String) : Option ParamAction :=
  if client = backend then none
  else some (match client with
    | some value => .setTo value
    | none => .reset)

/-- Mirroring the action for a name, or keeping its value when there is none, gives the
client's value. -/
theorem elim_diffAction (backend client : Option String) :
    (diffAction backend client).elim backend ParamAction.result = client := by
  unfold diffAction
  split_ifs with h
  · exact h.symm
  · cases client <;> rfl

/-- The first pass, per name: a `SetTo` where the client's value is not the backend's. -/
theorem lookup_setActions (backend : AList (fun _ : String => String))
    (diff : AList (fun _ : String => ParamAction)) {entries : List (Σ _ : String, String)}
    (hentries : entries.NodupKeys) (k : String) :
    (setActions backend diff entries).lookup k =
      if isSetForbidden k = true then diff.lookup k
      else match entries.dlookup k with
        | some clientValue =>
          if backend.lookup k = some clientValue then diff.lookup k else some (.setTo clientValue)
        | none => diff.lookup k := by
  induction entries generalizing diff with
  | nil => simp [setActions]
  | cons e rest ih =>
    obtain ⟨key, clientValue⟩ := e
    have hrest : rest.NodupKeys := hentries.sublist (List.sublist_cons_self _ _)
    rw [setActions, ih _ hrest]
    by_cases hkey : k = key
    · -- the entry's own name: no later entry has it
      subst hkey
      have hnone : rest.dlookup k = none :=
        List.dlookup_eq_none.mpr (List.nodupKeys_cons.mp hentries).1
      rw [hnone, List.dlookup_cons_eq]
      cases hforbidden : isSetForbidden k
      · cases backend.lookup k with
        | none => simp [AList.lookup_insert]
        | some backendValue =>
          simp only [Bool.false_eq_true, if_false, Option.some.injEq]
          split_ifs <;> simp [AList.lookup_insert]
      · simp
    · rw [List.dlookup_cons_ne _ _ hkey]
      have hdiff : (if isSetForbidden key = true then diff else
          match backend.lookup key with
          | some backendValue => if backendValue = clientValue then diff
            else diff.insert key (.setTo clientValue)
          | none => diff.insert key (.setTo clientValue)).lookup k = diff.lookup k := by
        split
        · rfl
        · split
          · split <;> simp [AList.lookup_insert_ne hkey]
          · exact AList.lookup_insert_ne hkey
      simp only [hdiff]

/-- The second pass, per name: a `Reset` for a backend name the client lacks. -/
theorem lookup_resetActions (incoming : AList (fun _ : String => String))
    (diff : AList (fun _ : String => ParamAction)) (keys : List String) (k : String) :
    (resetActions incoming diff keys).lookup k =
      if k ∈ keys ∧ isSetForbidden k = false ∧ k ∉ incoming then some .reset
      else diff.lookup k := by
  induction keys generalizing diff with
  | nil => simp [resetActions]
  | cons key rest ih =>
    rw [resetActions, ih]
    by_cases hkey : k = key
    · subst hkey
      cases isSetForbidden k <;> by_cases hmem : k ∈ incoming <;>
        simp [hmem, AList.lookup_insert]
    · have hdiff : (if isSetForbidden key = true then diff
          else if key ∈ incoming then diff else diff.insert key .reset).lookup k = diff.lookup k := by
        split_ifs
        · rfl
        · rfl
        · exact AList.lookup_insert_ne hkey
      simp [hdiff, hkey]

/-- **What `compare_params` emits for a name**: nothing for a forbidden name, otherwise the
action that takes the backend's value to the client's, which is none where they agree. -/
theorem lookup_compareParams (backend incoming : ServerParameters) (k : String) :
    (backend.compareParams incoming).lookup k =
      if isSetForbidden k = true then none
      else diffAction (backend.parameters.lookup k) (incoming.parameters.lookup k) := by
  rw [ServerParameters.compareParams, lookup_resetActions,
    lookup_setActions _ _ incoming.parameters.nodupKeys]
  have hclient : incoming.parameters.entries.dlookup k = incoming.parameters.lookup k := rfl
  have hbackend : k ∈ backend.parameters.keys ↔ (backend.parameters.lookup k).isSome := by
    rw [AList.lookup_isSome, AList.mem_keys]
  have hincoming : k ∈ incoming.parameters ↔ (incoming.parameters.lookup k).isSome :=
    AList.lookup_isSome.symm
  simp only [hclient, hbackend, hincoming]
  cases hforbidden : isSetForbidden k <;>
    cases backend.parameters.lookup k <;> cases incoming.parameters.lookup k <;>
    simp [diffAction, AList.lookup_empty, eq_comm]

/-- Keeping the entries whose name passes a test keeps the lookups of those names. -/
theorem dlookup_filter_key {β : Type} (q : String → Bool) (l : List (Σ _ : String, β))
    (k : String) : (l.filter fun e => q e.1).dlookup k = if q k then l.dlookup k else none := by
  induction l with
  | nil => simp
  | cons e rest ih =>
    obtain ⟨key, b⟩ := e
    by_cases hkey : k = key
    · subst hkey
      cases hq : q k <;> simp [hq, ih, List.dlookup_cons_eq]
    · have hne := List.dlookup_cons_ne rest (⟨key, b⟩ : Σ _ : String, β) hkey
      rw [hne, List.filter_cons]
      split
      · rw [List.dlookup_cons_ne _ (⟨key, b⟩ : Σ _ : String, β) hkey, ih]
      · exact ih

theorem nodupKeys_syncActions (backend client : ServerParameters) (managed : List String) :
    (syncActions backend client managed).NodupKeys :=
  (backend.compareParams client).nodupKeys.sublist List.filter_sublist

theorem dlookup_syncActions (backend client : ServerParameters) (managed : List String)
    (k : String) : (syncActions backend client managed).dlookup k =
      if k ∈ managed then none else (backend.compareParams client).lookup k := by
  rw [syncActions, dlookup_filter_key (fun k => decide (k ∉ managed))]
  by_cases hk : k ∈ managed <;> simp [hk, AList.lookup]

/-- `set_param` of a canonical name with `startup` sets it. -/
theorem parameters_setParam_of_canonical (s : ServerParameters) {key : String}
    (hkey : canonicalizeParamName key = key) (value : String) :
    (s.setParam key value true).2.parameters = s.parameters.insert key value := by
  unfold ServerParameters.setParam
  simp only [hkey, Bool.or_true, if_true]
  split_ifs <;> rfl

/-- `remove_param` of a canonical name removes it. -/
theorem parameters_removeParam_of_canonical (s : ServerParameters) {key : String}
    (hkey : canonicalizeParamName key = key) :
    (s.removeParam key).parameters = s.parameters.erase key := by
  unfold ServerParameters.removeParam
  simp only [hkey]
  split_ifs <;> rfl

/-- **Mirroring actions on distinct canonical names**: each name ends with the value its
action gives it, and a name without an action keeps its value. -/
theorem lookup_applyParamActions (s : ServerParameters) {actions : List (Σ _ : String, ParamAction)}
    (hnodup : actions.NodupKeys) (hcanonical : ∀ e ∈ actions, canonicalizeParamName e.1 = e.1)
    (k : String) : (s.applyParamActions actions).parameters.lookup k =
      (actions.dlookup k).elim (s.parameters.lookup k) ParamAction.result := by
  induction actions generalizing s with
  | nil => rfl
  | cons e rest ih =>
    obtain ⟨key, action⟩ := e
    have hrest : rest.NodupKeys := hnodup.sublist (List.sublist_cons_self _ _)
    have hkey : canonicalizeParamName key = key := hcanonical ⟨key, action⟩ List.mem_cons_self
    have hcanonicalRest := fun e he => hcanonical e (List.mem_cons_of_mem _ he)
    -- the action on `key` is mirrored first; the rest do not touch it
    cases action with
    | setTo value =>
      rw [ServerParameters.applyParamActions, ih _ hrest hcanonicalRest,
        parameters_setParam_of_canonical s hkey]
      by_cases hk : k = key
      · subst hk
        rw [List.dlookup_eq_none.mpr (List.nodupKeys_cons.mp hnodup).1, List.dlookup_cons_eq]
        simp [AList.lookup_insert, ParamAction.result]
      · rw [List.dlookup_cons_ne _ _ hk, AList.lookup_insert_ne hk]
    | reset =>
      rw [ServerParameters.applyParamActions, ih _ hrest hcanonicalRest,
        parameters_removeParam_of_canonical s hkey]
      by_cases hk : k = key
      · subst hk
        rw [List.dlookup_eq_none.mpr (List.nodupKeys_cons.mp hnodup).1, List.dlookup_cons_eq]
        simp [AList.lookup_erase, ParamAction.result]
      · rw [List.dlookup_cons_ne _ _ hk, AList.lookup_erase_ne hk]

/-- An action is emitted only for a name that is not forbidden and on which the two snapshots
disagree. -/
theorem differ_of_lookup_compareParams {backend incoming : ServerParameters} {k : String}
    (h : (backend.compareParams incoming).lookup k ≠ none) :
    isSetForbidden k = false ∧ backend.parameters.lookup k ≠ incoming.parameters.lookup k := by
  rw [lookup_compareParams] at h
  split_ifs at h with hforbidden
  · exact absurd rfl h
  · refine ⟨by simpa using hforbidden, fun heq => ?_⟩
    simp [diffAction, heq] at h

/-- Every action `sync_parameters` keeps is on a name one of the snapshots holds. -/
theorem mem_of_mem_syncActions {backend client : ServerParameters} {managed : List String}
    {e : Σ _ : String, ParamAction} (he : e ∈ syncActions backend client managed) :
    e.1 ∈ backend.parameters ∨ e.1 ∈ client.parameters := by
  have hemitted : (backend.compareParams client).lookup e.1 = some e.2 :=
    AList.mem_lookup_iff.mpr (List.mem_filter.mp he).1
  have hdiffer : backend.parameters.lookup e.1 ≠ client.parameters.lookup e.1 :=
    (differ_of_lookup_compareParams (by simp [hemitted])).2
  rw [← AList.lookup_isSome, ← AList.lookup_isSome]
  cases hb : backend.parameters.lookup e.1 <;> cases hc : client.parameters.lookup e.1 <;>
    simp_all

/-- **Checkout parameter sync converges.** For snapshots whose names are canonical, mirroring
the actions `sync_parameters` keeps, in any order, makes the backend hold the client's value of
every name neither forbidden nor operator-managed, leaves every other name as it was, and an
action is emitted only for a name the two snapshots disagree on. -/
theorem sync_parameters_converges {backend client : ServerParameters}
    (hbackend : ∀ k ∈ backend.parameters, canonicalizeParamName k = k)
    (hclient : ∀ k ∈ client.parameters, canonicalizeParamName k = k) (managed : List String)
    {order : List (Σ _ : String, ParamAction)}
    (horder : order.Perm (syncActions backend client managed)) :
    (∀ k, isSetForbidden k = false → k ∉ managed →
        (backend.applyParamActions order).parameters.lookup k = client.parameters.lookup k) ∧
      (∀ k, isSetForbidden k = true ∨ k ∈ managed →
        (backend.applyParamActions order).parameters.lookup k = backend.parameters.lookup k) ∧
      (∀ k, (backend.compareParams client).lookup k ≠ none →
        backend.parameters.lookup k ≠ client.parameters.lookup k) := by
  have hnodup : order.NodupKeys :=
    (List.perm_nodupKeys horder).mpr (nodupKeys_syncActions backend client managed)
  have hcanonical : ∀ e ∈ order, canonicalizeParamName e.1 = e.1 := fun e he =>
    (mem_of_mem_syncActions (horder.subset he)).elim (hbackend _) (hclient _)
  -- per name, the mirrored value is the kept action's result, or the backend's value
  have hmirror : ∀ k, (backend.applyParamActions order).parameters.lookup k =
      ((syncActions backend client managed).dlookup k).elim (backend.parameters.lookup k)
        ParamAction.result := fun k => by
    rw [lookup_applyParamActions backend hnodup hcanonical, List.perm_dlookup k hnodup horder]
  refine ⟨fun k hforbidden hmanaged => ?_, fun k hkept => ?_, fun k hemitted => ?_⟩
  · rw [hmirror, dlookup_syncActions, if_neg hmanaged, lookup_compareParams, hforbidden]
    exact elim_diffAction _ _
  · rw [hmirror, dlookup_syncActions, lookup_compareParams]
    rcases hkept with hforbidden | hmanaged
    · split_ifs <;> rfl
    · rw [if_pos hmanaged]
      rfl
  · exact (differ_of_lookup_compareParams hemitted).2

/-- A client with its own `search_path` and an operator-managed `application_name` checks out a
backend that also holds a `TimeZone`. -/
theorem sync_parameters_converges_search_path :
    let backend : ServerParameters :=
      ⟨⟨[⟨"search_path", "public"⟩, ⟨"TimeZone", "UTC"⟩], by unfold List.NodupKeys; decide⟩,
        plannerHashUnset⟩
    let client : ServerParameters :=
      ⟨⟨[⟨"search_path", "app"⟩, ⟨"application_name", "psql"⟩], by unfold List.NodupKeys; decide⟩,
        plannerHashUnset⟩
    let order := syncActions backend client ["application_name"]
    (∀ k, isSetForbidden k = false → k ∉ ["application_name"] →
        (backend.applyParamActions order).parameters.lookup k = client.parameters.lookup k) ∧
      (∀ k, isSetForbidden k = true ∨ k ∈ ["application_name"] →
        (backend.applyParamActions order).parameters.lookup k = backend.parameters.lookup k) ∧
      (∀ k, (backend.compareParams client).lookup k ≠ none →
        backend.parameters.lookup k ≠ client.parameters.lookup k) :=
  sync_parameters_converges
    (fun k hk => by
      rcases List.mem_cons.mp hk with rfl | hk
      · decide
      · rcases List.mem_cons.mp hk with rfl | hk
        · decide
        · simp at hk)
    (fun k hk => by
      rcases List.mem_cons.mp hk with rfl | hk
      · decide
      · rcases List.mem_cons.mp hk with rfl | hk
        · decide
        · simp at hk)
    ["application_name"] (List.Perm.refl _)

end PgDoorman.Server
