import AddressPlan.Prefix.Index
import AddressPlan.Refusal
/-!
# Conflicts

Which existing pools the planned blocks would collide with. The answer is in the order of the
plan and, for each planned block, in ascending order of pool ids.
-/
namespace AddressPlan

def poolsById (pools : List Pool) (positions : List Nat) : List Pool :=
  (positions.filterMap (pools[·]?)).mergeSort fun p q => p.id ≤ q.id

def poolIndex (pools : List Pool) : Prefix.Index :=
  .ofList (pools.map Pool.cidr)

/-- Every collision of a planned block with an existing pool. -/
def conflictsOf (planned : List PlannedPool) (existing : List Pool) : List Conflict :=
  let index := poolIndex existing
  planned.flatMap fun plan =>
    (poolsById existing (index.overlapping plan.cidr)).filterMap plan.conflict?

end AddressPlan
