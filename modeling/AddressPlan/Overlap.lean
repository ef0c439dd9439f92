import AddressPlan.Pool.Basic
/-!
# Overlaps

How two blocks of addresses relate, and the report of a planned block that meets an existing
pool. Canonical blocks nest or are disjoint, so a partial overlap does not arise; it is kept as
the third case of the general question.
-/
namespace AddressPlan

inductive OverlapKind
  | contains
  | containedBy
  | partly
deriving DecidableEq

namespace OverlapKind

def name : OverlapKind → String
  | contains => "contains"
  | containedBy => "contained_by"
  | partly => "overlap"

def ofName? (s : String) : Option OverlapKind :=
  if s = "contains" then some contains
  else if s = "contained_by" then some containedBy
  else if s = "overlap" then some partly
  else none

theorem ofName?_name (k : OverlapKind) : ofName? k.name = some k := by
  cases k <;> rfl

end OverlapKind

/-- How `planned` meets `existing`, if they meet. Equal blocks count as containing. -/
def classify (planned existing : Prefix) : Option OverlapKind :=
  if planned.contains existing then some .contains
  else if existing.contains planned then some .containedBy
  else if planned.first ≤ existing.last ∧ existing.first ≤ planned.last then some .partly
  else none

/-- A planned block that meets an existing pool. -/
structure Conflict where
  plannedCidr : Prefix
  plannedName : String
  existingId : PoolId
  existingName : String
  existingCidr : Prefix
  overlap : OverlapKind
deriving DecidableEq

structure PlannedPool where
  name : String
  cidr : Prefix
deriving DecidableEq

def PlannedPool.conflict? (planned : PlannedPool) (pool : Pool) : Option Conflict :=
  (classify planned.cidr pool.cidr).map fun overlap =>
    { plannedCidr := planned.cidr
      plannedName := planned.name
      existingId := pool.id
      existingName := pool.name
      existingCidr := pool.cidr
      overlap := overlap }

end AddressPlan
