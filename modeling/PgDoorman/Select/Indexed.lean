import Mathlib.Data.List.Sort

/-!
# Selecting the entries of a list by position

`iter().enumerate()` pairs each entry of a queue with its position. A selection by position
keeps, in their order, the entries whose position a set holds, and the complement keeps the
others, also in their order; a stable sort of the positions by a key, cut after `k`, is how such
a set names the `k` entries with the largest keys.

## Main definitions

* `atPositions p l`: the entries of `l` at the positions that satisfy `p`, in order

## Main results

* `atPositions_append_perm`: a selection and its complement together are the list
* `length_atPositions_mem`: a set of distinct positions within the list selects as many entries
* `filter_atPositions_not`: a complement keeps, in order, every entry the selection never takes
* `pairwise_take_drop`: in a list ordered by a relation, what comes before a cut is related to
  what comes after it
-/

namespace Select

variable {α : Type}

/-- The entries of `l` at the positions that satisfy `p`, in order. -/
def atPositions (p : Nat → Bool) (l : List α) : List α :=
  (l.zipIdx.filter fun e => p e.2).map Prod.fst

theorem mem_atPositions {p : Nat → Bool} {l : List α} {x : α} :
    x ∈ atPositions p l ↔ ∃ i, l[i]? = some x ∧ p i := by
  simp only [atPositions, List.mem_map, List.mem_filter, List.mem_zipIdx_iff_getElem?]
  constructor
  · rintro ⟨⟨y, i⟩, ⟨hy, hp⟩, rfl⟩
    exact ⟨i, hy, hp⟩
  · rintro ⟨i, hx, hp⟩
    exact ⟨(x, i), ⟨hx, hp⟩, rfl⟩

theorem atPositions_sublist (p : Nat → Bool) (l : List α) : (atPositions p l).Sublist l := by
  have h : ((l.zipIdx.filter fun e => p e.2).map Prod.fst).Sublist (l.zipIdx.map Prod.fst) :=
    List.filter_sublist.map Prod.fst
  rwa [List.zipIdx_map_fst] at h

theorem atPositions_append_perm (p : Nat → Bool) (l : List α) :
    (atPositions p l ++ atPositions (fun i => !p i) l).Perm l := by
  have h := (List.filter_append_perm (fun e : α × Nat => p e.2) l.zipIdx).map Prod.fst
  rwa [List.map_append, List.zipIdx_map_fst] at h

/-- A filter on the entries is the same filter on their pairs with their positions. -/
theorem filter_map_fst (r : α → Bool) (L : List (α × Nat)) :
    (L.map Prod.fst).filter r = (L.filter fun e => r e.1).map Prod.fst :=
  List.filter_map

/-- The entries that satisfy `q`, paired with their positions, are `countP q` many. -/
theorem length_filter_zipIdx (q : α → Bool) (l : List α) :
    (l.zipIdx.filter fun e => q e.1).length = l.countP q := by
  have h := congrArg List.length (filter_map_fst q l.zipIdx)
  rw [List.zipIdx_map_fst, List.length_map] at h
  rw [List.countP_eq_length_filter, h]

/-- The positions of a list are distinct. -/
theorem nodup_map_snd_filter_zipIdx (q : α × Nat → Bool) (l : List α) :
    ((l.zipIdx.filter q).map Prod.snd).Nodup := by
  have h : (l.zipIdx.map Prod.snd).Nodup := by
    rw [List.zipIdx_map_snd]
    exact List.nodup_range'
  exact h.sublist (List.filter_sublist.map Prod.snd)

/-- A set of distinct positions within the list selects one entry for each. -/
theorem length_atPositions_mem {T : List Nat} (hT : T.Nodup) {l : List α}
    (hlt : ∀ i ∈ T, i < l.length) :
    (atPositions (fun i => decide (i ∈ T)) l).length = T.length := by
  -- the selected positions are `range l.length` cut down to `T`, a permutation of `T`
  have hperm : ((List.range l.length).filter fun i => decide (i ∈ T)).Perm T := by
    rw [List.perm_ext_iff_of_nodup (List.nodup_range.filter _) hT]
    intro i
    simp only [List.mem_filter, List.mem_range, decide_eq_true_eq]
    exact ⟨fun h => h.2, fun h => ⟨hlt i h, h⟩⟩
  have hsnd : ((l.zipIdx.map Prod.snd).filter fun i => decide (i ∈ T)) =
      (l.zipIdx.filter fun e => decide (e.2 ∈ T)).map Prod.snd :=
    List.filter_map
  rw [List.zipIdx_map_snd, ← List.range_eq_range'] at hsnd
  rw [atPositions, List.length_map, ← hperm.length_eq, hsnd, List.length_map]

/-- A complement keeps, in order, every entry outside `q` when the selection only takes entries
in `q`. -/
theorem filter_atPositions_not {p : Nat → Bool} {q : α → Bool} {l : List α}
    (h : ∀ i x, l[i]? = some x → p i = true → q x = true) :
    (atPositions (fun i => !p i) l).filter (fun x => !q x) = l.filter fun x => !q x := by
  have hl := filter_map_fst (fun x => !q x) l.zipIdx
  rw [List.zipIdx_map_fst] at hl
  rw [hl, atPositions, filter_map_fst, List.filter_filter]
  congr 1
  apply List.filter_congr
  rintro ⟨x, i⟩ he
  rw [List.mem_zipIdx_iff_getElem?] at he
  -- an entry outside `q` is never at a selected position
  cases hq : q x
  · cases hp : p i
    · rfl
    · exact absurd (h i x he hp) (by rw [hq]; decide)
  · simp

/-- In a list ordered by `R`, an entry before a cut is related to every entry after it. -/
theorem pairwise_take_drop {R : α → α → Prop} {l : List α} (hl : l.Pairwise R) (k : Nat) :
    ∀ x ∈ l.take k, ∀ y ∈ l.drop k, R x y := by
  rw [← List.take_append_drop k l, List.pairwise_append] at hl
  exact hl.2.2

end Select
