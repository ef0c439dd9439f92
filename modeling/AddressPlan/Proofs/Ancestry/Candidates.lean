import AddressPlan.Proofs.Ancestry.OverlapRule
import AddressPlan.Proofs.Store.Rows
/-!
# A new pool behind all others

The gate of a creation walks up from the parent of a draft and no further. An audit of the pools
with the new one behind them walks up from both of each pair. Where every declared parent is listed
no chain leads to the new pool, so the two find the same pools.
-/
namespace AddressPlan

/-- Every declared parent is one of the pools. -/
def Closed (pools : List Pool) : Prop :=
  ∀ pool ∈ pools, ∀ id, pool.parent = some id → id ∈ pools.map Pool.id

/-- A draft comes behind pools whose parents are all listed, under a larger id, and its own parent
is listed too. -/
structure PoolDraft.ComesBehind (draft : PoolDraft) (pools : List Pool) (id : PoolId) : Prop where
  ascending : pools.Pairwise (Pool.id · < Pool.id ·)
  larger : ∀ pool ∈ pools, pool.id < id
  closed : Closed pools
  parent : ∀ parent, draft.parent = some parent → parent ∈ pools.map Pool.id

/-- The stored pool that a conflict is about. -/
def Conflict.existing (c : Conflict) : PoolId × String × Prefix :=
  (c.existingId, c.existingName, c.existingCidr)

/-- The pool of a violation that comes first in the list. -/
def Violation.first (v : Violation) : PoolId × String × Prefix :=
  (v.id, v.name, v.cidr)

def Violation.second (v : Violation) : PoolId × String × Prefix :=
  (v.otherId, v.otherName, v.otherCidr)

namespace PoolDraft.ComesBehind

variable {pools : List Pool} {draft : PoolDraft} {id : PoolId} {now : Instant} {a b : PoolId}

theorem nodup (h : draft.ComesBehind pools id) (now : Instant) :
    ((pools ++ [draft.toPool id now]).map Pool.id).Nodup := by
  refine nodup_of_ascending (List.pairwise_append.mpr ⟨h.ascending, List.pairwise_singleton .., ?_⟩)
  intro pool hmem new hnew
  obtain rfl := List.mem_singleton.mp hnew
  exact h.larger pool hmem

end PoolDraft.ComesBehind
end AddressPlan
