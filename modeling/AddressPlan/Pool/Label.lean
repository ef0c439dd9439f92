import AddressPlan.Text.Blank
/-!
# What a pool is, how far it has come, and where it came from

Each of the three is a closed list of names. A caller may write a name with blanks around it
and in any letter case; only ASCII letters are folded.
-/
namespace AddressPlan

def plainLabel (s : String) : String :=
  String.ofList ((Text.trimChars s.toList).map Char.toLower)

/-- What a pool stands for; it says nothing about the addresses. -/
inductive PoolKind
  | supernet
  | region
  | environment
  | vpc
  | subnet
deriving DecidableEq, Inhabited

inductive PoolStatus
  | planned
  | active
  | deprecated
deriving DecidableEq, Inhabited

inductive PoolSource
  | manual
  | discovered
  | planner
deriving DecidableEq, Inhabited

namespace PoolKind

def name : PoolKind → String
  | supernet => "supernet"
  | region => "region"
  | environment => "environment"
  | vpc => "vpc"
  | subnet => "subnet"

/-- An account is another name for a virtual private cloud. -/
def ofName? (s : String) : Option PoolKind :=
  if s = "supernet" then some supernet
  else if s = "region" then some region
  else if s = "environment" then some environment
  else if s = "vpc" ∨ s = "account" then some vpc
  else if s = "subnet" then some subnet
  else none

theorem ofName?_name (k : PoolKind) : ofName? k.name = some k := by
  cases k <;> rfl

end PoolKind

namespace PoolStatus

def name : PoolStatus → String
  | planned => "planned"
  | active => "active"
  | deprecated => "deprecated"

def ofName? (s : String) : Option PoolStatus :=
  if s = "planned" then some planned
  else if s = "active" then some active
  else if s = "deprecated" then some deprecated
  else none

theorem ofName?_name (k : PoolStatus) : ofName? k.name = some k := by
  cases k <;> rfl

end PoolStatus

namespace PoolSource

def name : PoolSource → String
  | manual => "manual"
  | discovered => "discovered"
  | planner => "schema_planner"

def ofName? (s : String) : Option PoolSource :=
  if s = "manual" then some manual
  else if s = "discovered" then some discovered
  else if s = "schema_planner" then some planner
  else none

theorem ofName?_name (k : PoolSource) : ofName? k.name = some k := by
  cases k <;> rfl

end PoolSource
end AddressPlan
