import AddressPlan.NetBox.Client
import AddressPlan.Store.Script
/-!
# The NetBox store

Pools and accounts kept by a NetBox server. The server knows no rule about names, so a new name is
looked up before a pool is created; records of the other address family are passed over.
-/
namespace AddressPlan.NetBox

def prefixesPath : String := "/api/ipam/prefixes/"

def tenantsPath : String := "/api/tenancy/tenants/"

def prefixPath (id : PoolId) : String :=
  prefixesPath ++ id.toNat.repr ++ "/"

def listingPath (filters : List (String × String)) : String :=
  prefixesPath ++ "?" ++ Text.queryText ([("family", "4"), ("limit", "1000")] ++ filters)

variable {σ α : Type}

abbrev Errand (σ α : Type) : Type := ExceptT Refusal (StateM (Line σ)) α

def errand (exchange : Exchange σ α) : Errand σ α :=
  ExceptT.adapt Failure.refusal exchange

def usable (result : Except Failure α) : Errand σ α :=
  ExceptT.mk (pure (result.mapError Failure.refusal))

def sameName (a b : String) : Bool :=
  a.toList.map Char.toLower == b.toList.map Char.toLower

def holder? (name : String) : List PrefixRecord → Except Failure (Option Pool)
  | [] => .ok none
  | r :: rs => do
    match ← r.pool? with
    | some pool => if sameName pool.name name then return some pool else holder? name rs
    | none => holder? name rs

def poolsOf (records : List PrefixRecord) : Except Failure (List Pool) := do
  return (← records.mapM PrefixRecord.pool?).filterMap id

section Calls

variable (client : Client) (remote : Remote σ)

def fetchPrefixes (filters : List (String × String)) : Exchange σ (List PrefixRecord) :=
  fetchAll client remote PrefixRecord.decoder (listingPath filters)

def listPools : Errand σ (List Pool) := do
  let records ← errand (fetchPrefixes client remote [])
  let pools ← usable (poolsOf records)
  return pools.mergeSort fun p q => p.id ≤ q.id

def getPool (id : PoolId) : Errand σ (Option Pool) := do
  match ← errand (getOptional client remote PrefixRecord.decoder (prefixPath id)) with
  | some r => usable r.pool?
  | none => return none

def checkParent (draft : PoolDraft) : Errand σ Unit := do
  match draft.parent with
  | none => return
  | some id =>
    match ← getPool client remote id with
    | some _ => return
    | none => throw (.absent (.parent id))

def checkName (draft : PoolDraft) : Errand σ Unit := do
  let records ← errand (fetchPrefixes client remote [("cf_ipam_pool_name__ie", draft.name)])
  match ← usable (holder? draft.name records) with
  | some pool => throw (.clash (.nameTaken draft.name pool.id))
  | none => return

def createPool (draft : PoolDraft) : Errand σ Pool := do
  checkParent client remote draft
  checkName client remote draft
  let r ← errand <|
    call client remote PrefixRecord.decoder .post prefixesPath (some (createBody draft))
  match ← usable r.pool? with
  | some pool => return pool
  | none =>
    throw (.storage ("NetBox returned non-IPv4 prefix " ++ r.cidr ++ " for pool '" ++
      draft.name ++ "'"))

/-- What the failure of a change means: what the server does not find is the pool. -/
def changeRefusal (id : PoolId) : Failure → Refusal
  | .notFound _ => .absent (.pool id)
  | failure => failure.refusal

def updatePool (id : PoolId) (change : PoolUpdate) : Errand σ Pool := do
  let r ← ExceptT.adapt (changeRefusal id) <|
    call client remote PrefixRecord.decoder .patch (prefixPath id) (some (updateBody change))
  match ← usable r.pool? with
  | some pool => return pool
  | none => throw (.absent (.pool id))

def listAccounts : Errand σ (List Account) := do
  let tenants ← errand (fetchAll client remote Tenant.decoder (tenantsPath ++ "?limit=1000"))
  return (tenants.map Tenant.account).mergeSort fun a b => a.id ≤ b.id

def store : Store (Line σ) where
  list := (listPools client remote).run
  get id := (getPool client remote id).run
  create draft := (createPool client remote draft).run
  update id change := (updatePool client remote id change).run
  accounts := (listAccounts client remote).run

end Calls
end AddressPlan.NetBox
