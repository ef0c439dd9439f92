import Mathlib
import AddressPlan.Proofs.Ancestry.Scans
import AddressPlan.Proofs.Sorting
/-!
# What a planned block collides with

A planned block has one conflict with each pool that it shares an address with, in the order of the
ids of the pools. The gate of a creation finds the same conflicts, less those with pools on the
chain of the declared parent.
-/
namespace AddressPlan

def PlannedPool.conflictWith (plan : PlannedPool) (pool : Pool) : Conflict where
  plannedCidr := plan.cidr
  plannedName := plan.name
  existingId := pool.id
  existingName := pool.name
  existingCidr := pool.cidr
  overlap := if plan.cidr.contains pool.cidr then .contains else .containedBy

private theorem conflict?_of_overlaps {plan : PlannedPool} {pool : Pool}
    (h : plan.cidr.overlaps pool.cidr = true) :
    plan.conflict? pool = some (plan.conflictWith pool) := by
  rw [PlannedPool.conflict?, classify_of_overlaps h]
  rfl

open Classical in
/-- The pools of a list that share an address with a block, in ascending order of their ids; those
with equal ids stand in the order of the list. -/
structure MeetsById (pools : List Pool) (block : Prefix) (found : List Pool) : Prop where
  ascending : found.Pairwise fun p q => p.id ≤ q.id
  of_id : ∀ id, found.filter (·.id = id) = pools.filter fun pool =>
    pool.id = id ∧ (block.addresses ∩ pool.cidr.addresses).Nonempty

section Meeting

variable (pools : List Pool)

private theorem meetsById_meeting (block : Prefix) :
    MeetsById pools block (meeting pools block) where
  ascending := sortByKey_ascending Pool.id _
  of_id id := by
    rw [meeting, filter_key_sortByKey, List.filter_filter]
    refine List.filter_congr fun pool _ => ?_
    simp [← Prefix.overlaps_iff_inter_nonempty]

private theorem filterMap_conflict? {plan : PlannedPool} {found : List Pool}
    (h : ∀ pool ∈ found, plan.cidr.overlaps pool.cidr = true) :
    found.filterMap plan.conflict? = found.map plan.conflictWith := by
  rw [← List.filterMap_eq_map]
  exact List.filterMap_congr fun pool hmem => conflict?_of_overlaps (h pool hmem)

private theorem conflictsOf_eq_map (planned : List PlannedPool) : conflictsOf planned pools =
    planned.flatMap fun plan => (meeting pools plan.cidr).map plan.conflictWith := by
  rw [conflictsOf_eq_meeting]
  exact List.flatMap_congr fun plan _ => filterMap_conflict? fun _ => overlaps_of_mem_meeting

end Meeting

private theorem meeting_congr {pools other : List Pool} (hperm : pools.Perm other)
    (hnodup : (pools.map Pool.id).Nodup) (block : Prefix) :
    meeting pools block = meeting other block :=
  sortByKey_congr (hperm.filter _) (hnodup.sublist (List.filter_sublist.map Pool.id))

/-- The gate looks at one candidate as the report of a plan does, and lets the chain of its parent
pass. -/
private theorem unrelatedOverlaps_eq_filter (pools : List Pool) (draft : PoolDraft) :
    unrelatedOverlaps pools draft = (conflictsOf [⟨draft.name, draft.cidr⟩] pools).filter fun c =>
      c.existingId ∉ ancestorIds pools draft.parent := by
  rw [unrelatedOverlaps_eq_meeting, filterMap_conflict? fun _ hmem =>
    overlaps_of_mem_meeting (List.mem_of_mem_filter hmem), conflictsOf_eq_map,
    List.flatMap_singleton, List.filter_map]
  rfl

/-- Every collision is reported once, in the order of the plan and then of the ids, and told by the
block that contains the other. -/
theorem conflictsOf_exact (planned : List PlannedPool) (pools : List Pool) :
    (∃ found : Prefix → List Pool, (∀ block, MeetsById pools block (found block)) ∧
      conflictsOf planned pools =
        planned.flatMap fun plan => (found plan.cidr).map plan.conflictWith) ∧
    (∀ c ∈ conflictsOf planned pools, c.overlap ≠ .partly) ∧
    (∀ other, pools.Perm other → (pools.map Pool.id).Nodup →
      conflictsOf planned other = conflictsOf planned pools) ∧
    ∀ draft : PoolDraft, unrelatedOverlaps pools draft =
      (conflictsOf [⟨draft.name, draft.cidr⟩] pools).filter fun c =>
        c.existingId ∉ ancestorIds pools draft.parent := by
  refine ⟨⟨meeting pools, meetsById_meeting pools, conflictsOf_eq_map pools planned⟩, ?_, ?_,
    unrelatedOverlaps_eq_filter pools⟩
  · intro c hc
    rw [conflictsOf_eq_map, List.mem_flatMap] at hc
    obtain ⟨plan, -, hc⟩ := hc
    obtain ⟨pool, -, rfl⟩ := List.mem_map.mp hc
    rw [PlannedPool.conflictWith]
    split <;> simp
  · intro other hperm hnodup
    rw [conflictsOf_eq_map, conflictsOf_eq_map]
    exact List.flatMap_congr fun plan _ => by rw [meeting_congr hperm hnodup]

/-- Equal, smaller and wider blocks that were stored in another order than that of their ids. -/
theorem conflictsOf_exact_reversed :
    let pool (id : PoolId) (cidr : Prefix) (parent : Option PoolId) : Pool :=
      ⟨id, "", cidr, .vpc, .active, parent, .manual, "", .empty, .epoch, .epoch⟩
    let wide := pool 9 (.ofAddress 0x0A000000 8 (by decide)) none
    let same := pool 5 (.ofAddress 0x0A010000 16 (by decide)) (some 9)
    let apart := pool 4 (.ofAddress 0xC0A80000 16 (by decide)) none
    let small := pool 2 (.ofAddress 0x0A010100 24 (by decide)) (some 5)
    let pools := [wide, same, apart, small]
    let plan : PlannedPool := ⟨"edge", .ofAddress 0x0A010000 16 (by decide)⟩
    pools.Perm pools.reverse ∧ (pools.map Pool.id).Nodup ∧
      conflictsOf [plan] pools.reverse = conflictsOf [plan] pools ∧
      (conflictsOf [plan] pools).map (fun c => (c.existingId, c.overlap)) =
        [(2, .contains), (5, .contains), (9, .containedBy)] := by
  intro pool wide same apart small pools plan
  have hperm : pools.Perm pools.reverse := (List.reverse_perm pools).symm
  have hnodup : (pools.map Pool.id).Nodup := by decide
  exact ⟨hperm, hnodup, (conflictsOf_exact [plan] pools).2.2.1 pools.reverse hperm hnodup,
    by cbv⟩

end AddressPlan
