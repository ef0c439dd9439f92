import AddressPlan.Ancestry
import AddressPlan.Proofs.Prefix.AddressSets
import AddressPlan.Proofs.Sorting
/-!
# The index as a scan

What a new pool would collide with and what an audit finds are read off the index, by positions.
Both are plain scans of the list of pools: the one of every pool, the other of every pair in the
order of the list.
-/
namespace AddressPlan

section Positions

variable {α : Type}

private theorem filterMap_getElem?_filter (keep : α → Bool) (xs : List α) (k : Nat) :
    ((List.range xs.length).filter fun i => decide (k ≤ i) && xs[i]?.any keep).filterMap
      (xs[·]?) = (xs.drop k).filter keep := by
  induction xs generalizing k with
  | nil => simp
  | cons x xs ih =>
    have hrest : ∀ n, (((List.range xs.length).map Nat.succ).filter fun i =>
        decide (n ≤ i) && (x :: xs)[i]?.any keep).filterMap ((x :: xs)[·]?) =
          (xs.drop (n - 1)).filter keep := by
      intro n
      rw [List.filter_map, List.filterMap_map, ← ih]
      simp [Function.comp_def]
    rw [List.length_cons, List.range_succ_eq_map, List.filter_cons]
    cases k with
    | zero =>
      have hall := hrest 0
      cases hx : keep x <;> simpa [hx] using hall
    | succ k =>
      have hbehind := hrest (k + 1)
      simpa using hbehind

private theorem overlapping_behind (pools : List Pool) (p : Prefix) (k : Nat) :
    (((poolIndex pools).overlapping p).filter (k ≤ ·)).filterMap (pools[·]?) =
      (pools.drop k).filter fun pool => p.overlaps pool.cidr := by
  rw [← filterMap_getElem?_filter, poolIndex, Prefix.Index.overlapping_ofList, Prefix.positions,
    List.filter_filter, List.length_map]
  simp [Option.any_map]

theorem filterMap_positions (keep : Prefix → Bool) (pools : List Pool) :
    (Prefix.positions keep (pools.map Pool.cidr)).filterMap (pools[·]?) =
      pools.filter fun pool => keep pool.cidr := by
  have h := filterMap_getElem?_filter (fun pool : Pool => keep pool.cidr) pools 0
  simpa [Prefix.positions, Option.any_map, Function.comp_def] using h

theorem overlapping_pools (pools : List Pool) (p : Prefix) :
    ((poolIndex pools).overlapping p).filterMap (pools[·]?) =
      pools.filter fun pool => p.overlaps pool.cidr := by
  rw [poolIndex, Prefix.Index.overlapping_ofList, filterMap_positions]

end Positions

section Overlaps

theorem conflict?_eq_none_iff {planned : PlannedPool} {pool : Pool} :
    planned.conflict? pool = none ↔ planned.cidr.overlaps pool.cidr = false := by
  rw [PlannedPool.conflict?, Option.map_eq_none_iff, classify_eq_none_iff]

theorem violation?_eq_none_iff {p q : Pool} :
    violation? p q = none ↔ p.cidr.overlaps q.cidr = false := by
  rw [violation?, Option.map_eq_none_iff, classify_eq_none_iff]

theorem overlaps_of_violation? {p q : Pool} {v : Violation} (h : violation? p q = some v) :
    p.cidr.overlaps q.cidr = true := by
  by_contra hover
  have hnone := violation?_eq_none_iff.mpr (Bool.eq_false_iff.mpr hover)
  cases hnone.symm.trans h

end Overlaps

section Meeting

variable (pools : List Pool)

def meeting (block : Prefix) : List Pool :=
  sortByKey Pool.id (pools.filter fun pool => block.overlaps pool.cidr)

theorem overlaps_of_mem_meeting {pools : List Pool} {block : Prefix} {pool : Pool}
    (h : pool ∈ meeting pools block) : block.overlaps pool.cidr = true :=
  (List.mem_filter.mp ((sortByKey_perm Pool.id _).mem_iff.mp h)).2

theorem conflictsOf_eq_meeting (planned : List PlannedPool) : conflictsOf planned pools =
    planned.flatMap fun plan => (meeting pools plan.cidr).filterMap plan.conflict? := by
  simp only [conflictsOf, poolsById, overlapping_pools]
  rfl

theorem unrelatedOverlaps_eq_meeting (draft : PoolDraft) : unrelatedOverlaps pools draft =
    ((meeting pools draft.cidr).filter fun pool =>
      pool.id ∉ ancestorIds pools draft.parent).filterMap
        (PlannedPool.mk draft.name draft.cidr).conflict? := by
  rw [meeting, filter_sortByKey, ← overlapping_pools]
  rfl

/-- In pools that stand in the order of their ids, a scan that finds nothing apart from a block may
look at all of them. -/
private theorem filterMap_meeting {α : Type} {pools : List Pool} {block : Prefix}
    {found : Pool → Option α}
    (hsorted : pools.Pairwise (Pool.id · < Pool.id ·))
    (h : ∀ pool, block.overlaps pool.cidr = false → found pool = none) :
    (meeting pools block).filterMap found = pools.filterMap found := by
  rw [meeting, sortByKey_of_ascending (hsorted.filter _), List.filterMap_filter]
  refine List.filterMap_congr fun pool _ => ?_
  cases hover : block.overlaps pool.cidr with
  | true => rfl
  | false => exact (h pool hover).symm

end Meeting

theorem conflictsOf_eq_flatMap {pools : List Pool} (planned : List PlannedPool)
    (hsorted : pools.Pairwise (Pool.id · < Pool.id ·)) :
    conflictsOf planned pools = planned.flatMap fun plan => pools.filterMap plan.conflict? := by
  rw [conflictsOf_eq_meeting]
  exact List.flatMap_congr fun plan _ =>
    filterMap_meeting hsorted fun pool => conflict?_eq_none_iff.mpr

def finding (pools : List Pool) (p q : Pool) : Option Violation :=
  if q.id ∈ ancestorIds pools (some p.id) ∨ p.id ∈ ancestorIds pools (some q.id) then none
  else violation? p q

/-- What is found of every pair of a list, in its order. -/
def scanPairs (found : Pool → Pool → Option Violation) : List Pool → List Violation
  | [] => []
  | p :: rest => rest.filterMap (found p) ++ scanPairs found rest

theorem mem_scanPairs_concat {found : Pool → Pool → Option Violation} {pools : List Pool}
    {new : Pool} {v : Violation} (h : v ∈ scanPairs found (pools ++ [new])) :
    v ∈ scanPairs found pools ∨ ∃ p ∈ pools, found p new = some v := by
  induction pools with
  | nil => cases h
  | cons p rest ih =>
    rw [List.cons_append, scanPairs, List.mem_append, List.filterMap_append, List.mem_append] at h
    rw [scanPairs, List.mem_append]
    rcases h with (hold | hnew) | hrest
    · exact .inl (.inl hold)
    · exact .inr ⟨p, List.mem_cons_self, by simpa using hnew⟩
    · rcases ih hrest with hold | ⟨q, hq, hfound⟩
      · exact .inl (.inr hold)
      · exact .inr ⟨q, List.mem_cons_of_mem _ hq, hfound⟩

theorem mem_scanPairs_of_imp {found found' : Pool → Pool → Option Violation} {pools : List Pool}
    {v : Violation} (h : ∀ p q, found p q = some v → found' p q = some v)
    (hv : v ∈ scanPairs found pools) : v ∈ scanPairs found' pools := by
  induction pools with
  | nil => exact hv
  | cons p rest ih =>
    rw [scanPairs, List.mem_append, List.mem_filterMap] at hv ⊢
    refine hv.imp ?_ ih
    rintro ⟨q, hq, hfound⟩
    exact ⟨q, hq, h p q hfound⟩

private theorem auditRow_eq (pools : List Pool) (p : Pool) (i : Nat) :
    (((poolIndex pools).overlapping p.cidr).filter (i < ·)).filterMap (fun j =>
      pools[j]?.bind (finding pools p)) = (pools.drop (i + 1)).filterMap (finding pools p) :=
  calc
    _ = ((((poolIndex pools).overlapping p.cidr).filter (i + 1 ≤ ·)).filterMap
          (pools[·]?)).filterMap (finding pools p) := List.filterMap_filterMap.symm
    _ = ((pools.drop (i + 1)).filter fun q => p.cidr.overlaps q.cidr).filterMap
          (finding pools p) := by rw [overlapping_behind]
    _ = (pools.drop (i + 1)).filterMap (finding pools p) := by
      rw [List.filterMap_filter]
      refine List.filterMap_congr fun q _ => ?_
      cases hover : p.cidr.overlaps q.cidr with
      | true => rfl
      | false => simp [finding, violation?_eq_none_iff.mpr hover]

theorem audit_eq_scanPairs (pools : List Pool) : audit pools = scanPairs (finding pools) pools := by
  -- the places count on from the pools that have been looked at
  have hrows : ∀ before rest : List Pool, before ++ rest = pools →
      (rest.zipIdx before.length).flatMap (fun row =>
        (pools.drop (row.2 + 1)).filterMap (finding pools row.1)) =
          scanPairs (finding pools) rest := by
    intro before rest
    induction rest generalizing before with
    | nil => exact fun _ => rfl
    | cons p rest ih =>
      intro hpools
      have hbefore : before ++ [p] ++ rest = pools := by simpa using hpools
      have hdrop : pools.drop (before.length + 1) = rest := by
        rw [← hbefore]
        exact List.drop_left' (by simp)
      have hrest := ih (before ++ [p]) hbefore
      rw [List.length_append, List.length_singleton] at hrest
      rw [List.zipIdx_cons, List.flatMap_cons, hrest, scanPairs, hdrop]
  rw [← hrows [] pools rfl, audit, List.zipIdx_map, List.flatMap_map]
  refine List.flatMap_congr fun row _ => ?_
  refine Eq.trans (List.filterMap_congr fun j _ => ?_) (auditRow_eq pools row.1 row.2)
  rw [List.getElem?_map]
  cases pools[j]? with
  | none => rfl
  | some q => rfl

end AddressPlan
