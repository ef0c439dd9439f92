import AddressPlan.Conflicts
/-!
# Ancestry and the overlap rule

Two pools may overlap only if one is an ancestor of the other along the declared parents. This
module walks those chains, finds what a new pool would collide with outside its own chain, and
audits a whole set of pools. Chains may dangle or run in circles; a walk stops there.
-/
namespace AddressPlan

/-- The parent that the pool with the given id declares. Of pools with equal ids the last
counts. -/
def declaredParent (pools : List Pool) (id : PoolId) : Option PoolId :=
  (pools.reverse.find? (·.id = id)).bind Pool.parent

/-- Extends a chain from `current` upward, at most `fuel` ids further. -/
def climb (pools : List Pool) : Nat → List PoolId → Option PoolId → List PoolId
  | 0, chain, _ => chain
  | _, chain, none => chain
  | fuel + 1, chain, some id =>
    if id ∈ chain then chain else climb pools fuel (id :: chain) (declaredParent pools id)

/-- The ids on the chain from `start` upward, `start` included. Every id but the last of a
chain belongs to a listed pool, so no chain is longer than the list by more than one. -/
def ancestorIds (pools : List Pool) (start : Option PoolId) : List PoolId :=
  climb pools (pools.length + 1) [] start

/-- The existing pools that a draft would overlap without being declared under them. -/
def unrelatedOverlaps (pools : List Pool) (draft : PoolDraft) : List Conflict :=
  let allowed := ancestorIds pools draft.parent
  let positions := (poolIndex pools).overlapping draft.cidr
  let hits := (positions.filterMap (pools[·]?)).filter (·.id ∉ allowed)
  (hits.mergeSort fun p q => p.id ≤ q.id).filterMap
    (PlannedPool.mk draft.name draft.cidr).conflict?

structure Violation where
  id : PoolId
  name : String
  cidr : Prefix
  otherId : PoolId
  otherName : String
  otherCidr : Prefix
  overlap : OverlapKind
deriving DecidableEq

def violation? (pool other : Pool) : Option Violation :=
  (classify pool.cidr other.cidr).map fun overlap =>
    { id := pool.id
      name := pool.name
      cidr := pool.cidr
      otherId := other.id
      otherName := other.name
      otherCidr := other.cidr
      overlap := overlap }

/-- Every pair of pools that breaks the overlap rule, in the order of the list. -/
def audit (pools : List Pool) : List Violation :=
  let index := poolIndex pools
  let chained := pools.map fun pool => (pool, ancestorIds pools (some pool.id))
  chained.zipIdx.flatMap fun ((pool, chain), i) =>
    ((index.overlapping pool.cidr).filter (i < ·)).filterMap fun j =>
      match chained[j]? with
      | none => none
      | some (other, otherChain) =>
        if other.id ∈ chain ∨ pool.id ∈ otherChain then none else violation? pool other

end AddressPlan
