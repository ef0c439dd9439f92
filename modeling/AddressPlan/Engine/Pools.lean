import AddressPlan.Ancestry
import AddressPlan.Prefix.Window
import AddressPlan.Store.Script
import AddressPlan.Validation
/-!
# Operations on pools

Listing, looking up, creating and changing pools, walking up to the ancestors of a pool, cutting
a pool into child blocks, and the audit of the whole store. A pool is created only under a parent
that contains it and, unless the caller has checked before, only if it overlaps nothing outside
its own chain of parents.
-/
namespace AddressPlan.Engine

/-- Whether creating a pool looks for overlaps in the store. -/
inductive OverlapPolicy
  | enforce
  | skip
deriving DecidableEq

def listPools : Action (List Pool) :=
  Action.list

def getPool (id : PoolId) : Action Pool := do
  match ← Action.get id with
  | some pool => return pool
  | none => throw (.absent (.pool id))

def checkParent (draft : PoolDraft) : Action Unit := do
  match draft.parent with
  | none => return
  | some id =>
    match ← Action.get id with
    | none => throw (.absent (.parent id))
    | some parent => Action.ofExcept (validChild none parent.cidr draft.cidr)

/-- A draft overlaps no stored pool outside its chain of parents. -/
def checkOverlaps (draft : PoolDraft) : Action Unit := do
  let pools ← Action.list
  let conflicts := unrelatedOverlaps pools draft
  if conflicts.isEmpty then return
  else throw (.clash (.blocks draft.cidr conflicts))

def createDraft (policy : OverlapPolicy) (draft : PoolDraft) : Action Pool := do
  checkParent draft
  match policy with
  | .enforce => checkOverlaps draft
  | .skip => pure ()
  Action.create draft

def createPool (limits : Limits) (policy : OverlapPolicy) (request : PoolRequest) :
    Action Pool := do
  let draft ← Action.valid (request.validate limits)
  createDraft policy draft

/-- A patch that changes nothing reads the pool and leaves its time stamp alone. -/
def updatePool (id : PoolId) (patch : PoolPatch) : Action Pool := do
  let change ← Action.valid patch.validate
  if change.isEmpty then getPool id else Action.update id change

/-- Walks up from `next`, past at most `fuel` ids, and stops at an id it has seen. -/
def ancestorsFrom : Nat → List PoolId → Option PoolId → Action (List Pool)
  | 0, _, _ => return []
  | _, _, none => return []
  | fuel + 1, visited, some id => do
    if id ∈ visited then return []
    else
      match ← Action.get id with
      | none => return []
      | some parent => return parent :: (← ancestorsFrom fuel (id :: visited) parent.parent)

/-- The declared ancestors of a pool, the nearest first. A walk visits no id twice, so the number
of ids bounds it. -/
def ancestors (id : PoolId) : Action (List Pool) := do
  let pool ← getPool id
  ancestorsFrom UInt64.size [pool.id] pool.parent

def subnets (id : PoolId) (len : Nat) (offset limit : UInt64) :
    Action (Pool × Prefix.Window) := do
  let pool ← getPool id
  let window ← Action.valid (pool.cidr.window len offset limit)
  return (pool, window)

def auditPools : Action (List Violation) := do
  return audit (← Action.list)

end AddressPlan.Engine
