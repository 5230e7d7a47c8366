import PgDoorman.Wire.Bytes
import PgDoorman.SortedMap

/-!
# Shared vocabulary of the model

The error variants the modelled functions return, and the two standard maps of strings the
source passes around: a `HashMap<String, String>`, of which only lookups are observable, and a
`BTreeMap<String, String>`, iterated in key order.

## Main definitions

* `Error`: the variants of `crate::errors::Error` returned by the modelled functions
* `StrMap`: a `HashMap<String, String>` as the lookups it answers
* `BTreeMap`: a `BTreeMap<String, String>` as its entries in increasing key order, with
  `insert` and `collect`
-/

namespace PgDoorman

/-- The variants of `crate::errors::Error` that the modelled functions return, with the text
they carry. -/
inductive Error where
  | protocolSyncError (msg : String)
  | clientBadStartup
  | queryError (msg : String)
  | parseBytesError (msg : String)
  | clientError (msg : String)
  | scramClientError (msg : String)
  | scramServerError (msg : String)
  | badConfig (msg : String)
  | serverStartupParameterRejection (sqlstate message : String)
  deriving Repr, DecidableEq

/-- A `HashMap<String, String>`. Its iteration order is unspecified, so the model keeps what a
caller can observe: the value each key looks up. -/
def StrMap : Type := String → Option String

namespace StrMap

/-- `HashMap::new()`. -/
def empty : StrMap := fun _ => none

/-- `HashMap::insert`: the new value replaces any previous one. -/
def insert (m : StrMap) (k v : String) : StrMap :=
  fun k' => if k' = k then some v else m k'

@[simp] theorem empty_apply (k : String) : empty k = none := rfl

@[simp] theorem insert_apply (m : StrMap) (k v k' : String) :
    m.insert k v k' = if k' = k then some v else m k' := rfl

end StrMap

/-- A `BTreeMap<String, String>`: its entries, in increasing key order, so no key repeats. -/
structure BTreeMap where
  entries : List (String × String)
  sorted : entries.Pairwise (fun a b => a.1 < b.1)

namespace BTreeMap

/-- `BTreeMap::get`. -/
def get (m : BTreeMap) (k : String) : Option String :=
  m.entries.lookup k

/-- `BTreeMap::new()`. -/
def empty : BTreeMap :=
  ⟨[], List.Pairwise.nil⟩

/-- `BTreeMap::is_empty`. -/
def isEmpty (m : BTreeMap) : Bool :=
  m.entries.isEmpty

/-- `BTreeMap::insert`: the new value replaces any previous one. -/
def insert (m : BTreeMap) (k v : String) : BTreeMap :=
  ⟨SortedMap.insert k v m.entries, SortedMap.sorted_insert k v m.sorted⟩

/-- `collect()` of pairs into a `BTreeMap`: each inserted in turn, so the last of a key wins. -/
def collect (kvs : List (String × String)) : BTreeMap :=
  kvs.foldl (fun m kv => m.insert kv.1 kv.2) empty

/-- Two maps with the same entries are the same map. -/
theorem ext_entries {m m' : BTreeMap} (h : m.entries = m'.entries) : m = m' := by
  cases m
  cases m'
  cases h
  rfl

/-- A run of insertions into a map is the run of insertions into its entries. -/
theorem entries_foldl_insert {γ : Type} (key value : γ → String) (xs : List γ) (m : BTreeMap) :
    (xs.foldl (fun m x => m.insert (key x) (value x)) m).entries =
      (xs.map fun x => (key x, value x)).foldl (fun es kv => SortedMap.insert kv.1 kv.2 es)
        m.entries := by
  induction xs generalizing m with
  | nil => rfl
  | cons x xs ih => exact ih (m.insert (key x) (value x))

theorem isEmpty_iff (m : BTreeMap) : m.isEmpty = true ↔ m.entries = [] :=
  List.isEmpty_iff

end BTreeMap

end PgDoorman
