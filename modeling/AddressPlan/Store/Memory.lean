import AddressPlan.Store.Script
import AddressPlan.Text.Lowercase
/-!
# The memory store

Pools and accounts held in memory, by id. Names of pools are unique up to letter case, a declared
parent has to be there, and a new pool gets the next id. The id counter goes back to 0 behind the
largest id, and a pool under a known id takes the place of the old one.
-/
namespace AddressPlan

structure Memory where
  pools : Keyed PoolId Pool.id
  accounts : Keyed AccountId Account.id
  /-- The id of the next pool to be created. -/
  nextId : PoolId
deriving DecidableEq

namespace Memory

def empty : Memory := ⟨.empty, .empty, 1⟩

/-- Puts a pool in as it is; new pools get ids behind its id. -/
def addPool (m : Memory) (pool : Pool) : Memory :=
  { m with
    pools := m.pools.insert pool
    nextId := if m.nextId ≤ pool.id then pool.id + 1 else m.nextId }

def addAccount (m : Memory) (account : Account) : Memory :=
  { m with accounts := m.accounts.insert account }

def holder? (m : Memory) (name : String) : Option Pool :=
  m.pools.rows.find? fun pool => Text.lowercase pool.name = Text.lowercase name

def create (now : Instant) (draft : PoolDraft) (m : Memory) : Except Refusal Pool × Memory :=
  match draft.parent.filter fun id => (m.pools.find? id).isNone with
  | some id => (.error (.absent (.parent id)), m)
  | none =>
    match m.holder? draft.name with
    | some pool => (.error (.clash (.nameTaken draft.name pool.id)), m)
    | none =>
      let pool := draft.toPool m.nextId now
      (.ok pool, { m with pools := m.pools.insert pool, nextId := m.nextId + 1 })

def update (now : Instant) (id : PoolId) (change : PoolUpdate) (m : Memory) :
    Except Refusal Pool × Memory :=
  match m.pools.find? id with
  | none => (.error (.absent (.pool id)), m)
  | some pool =>
    let changed := { change.applyTo pool with updatedAt := now }
    (.ok changed, { m with pools := m.pools.insert changed })

/-- The memory as a store under a clock that stands still. -/
def store (now : Instant) : Store Memory where
  list m := (.ok m.pools.rows, m)
  get id m := (.ok (m.pools.find? id), m)
  create draft m := m.create now draft
  update id change m := m.update now id change
  accounts m := (.ok m.accounts.rows, m)

end Memory
end AddressPlan
