import AddressPlan.Calendar.Instant
import AddressPlan.Keyed
import AddressPlan.Pool.Label
import AddressPlan.Prefix.Basic
/-!
# Pools

A pool is a named allocation of a prefix, possibly declared under a parent pool. The parent is
set once, at creation, and is never derived from the addresses. An account is an owner that
pools can be allocated to.
-/
namespace AddressPlan

abbrev PoolId : Type := UInt64

abbrev AccountId : Type := UInt64

abbrev Tags : Type := Named String

structure Pool where
  id : PoolId
  name : String
  cidr : Prefix
  kind : PoolKind
  status : PoolStatus
  parent : Option PoolId
  source : PoolSource
  description : String
  tags : Tags
  createdAt : Instant
  updatedAt : Instant
deriving DecidableEq

/-- A pool that has passed validation and has not been stored yet. -/
structure PoolDraft where
  name : String
  cidr : Prefix
  kind : PoolKind
  status : PoolStatus
  parent : Option PoolId
  source : PoolSource
  description : String
  tags : Tags
deriving DecidableEq

def PoolDraft.toPool (draft : PoolDraft) (id : PoolId) (now : Instant) : Pool where
  id := id
  name := draft.name
  cidr := draft.cidr
  kind := draft.kind
  status := draft.status
  parent := draft.parent
  source := draft.source
  description := draft.description
  tags := draft.tags
  createdAt := now
  updatedAt := now

/-- The fields of a pool that can change; an absent one stays as it is. -/
structure PoolUpdate where
  status : Option PoolStatus
  description : Option String
  tags : Option Tags
deriving DecidableEq

namespace PoolUpdate

def isEmpty (u : PoolUpdate) : Bool :=
  u.status.isNone && u.description.isNone && u.tags.isNone

def applyTo (u : PoolUpdate) (p : Pool) : Pool :=
  { p with
    status := u.status.getD p.status
    description := u.description.getD p.description
    tags := u.tags.getD p.tags }

end PoolUpdate

structure Account where
  id : AccountId
  /-- A key within the provider's naming. -/
  key : String
  name : String
  provider : String
  cidr : Option Prefix
  description : String
deriving DecidableEq

end AddressPlan
