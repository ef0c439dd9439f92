import AddressPlan.Validation
/-!
# Plans

A plan is a list of pools to be created together, each under a name of its own within the plan,
its ref. An entry may name the ref of an earlier entry as its parent. A dry run answers with the
conflicts, a real one with a report of what was created.
-/
namespace AddressPlan.Plan

structure Entry where
  ref : String
  name : String
  cidr : String
  kind : Option String
  parentRef : Option String
  description : Option String
  tags : Tags
deriving DecidableEq

namespace Entry

def of (ref name cidr : String) : Entry where
  ref := ref
  name := name
  cidr := cidr
  kind := none
  parentRef := none
  description := none
  tags := .empty

def parent (e : Entry) : Option String :=
  e.parentRef.bind Text.nonBlank?

def label (e : Entry) (position : Nat) : EntryLabel :=
  match Text.nonBlank? e.ref with
  | some ref => .ref ref
  | none => .position (position + 1)

end Entry

structure Request where
  entries : List Entry
  /-- The status of every created pool. -/
  status : Option String
  /-- Annotations of every created pool; those of an entry win over them. -/
  tags : Tags
  skipConflicts : Bool
deriving DecidableEq

structure Report where
  created : Nat
  skipped : Nat
  errors : List String
  warnings : List String
  /-- The last pool created without a parent. -/
  root : Option PoolId
  /-- The id of the pool created for each ref. -/
  pools : Named PoolId
deriving DecidableEq

def Report.empty : Report := ⟨0, 0, [], [], none, .empty⟩

structure CheckRequest where
  entries : List Entry
deriving DecidableEq

structure CheckResponse where
  conflicts : List Conflict
  totalPools : Nat
  conflictCount : Nat
deriving DecidableEq

def Entry.planned (limits : Limits) (position : Nat) (e : Entry) : Except Invalid PlannedPool := do
  let name ← (validName limits e.name).mapError (.inEntry (e.label position))
  let cidr ← (validCidr limits e.cidr).mapError (.inEntry (e.label position))
  return ⟨name, cidr⟩

/-- The planned blocks of a list of entries, up to the first faulty one. -/
def plannedFrom (limits : Limits) (position : Nat) : List Entry → Except Invalid (List PlannedPool)
  | [] => .ok []
  | e :: es => do
    let planned ← e.planned limits position
    return planned :: (← plannedFrom limits (position + 1) es)

def planned (limits : Limits) (entries : List Entry) : Except Invalid (List PlannedPool) :=
  plannedFrom limits 0 entries

end AddressPlan.Plan
