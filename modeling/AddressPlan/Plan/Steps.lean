import AddressPlan.Plan.Basic
import AddressPlan.Prefix.Index
/-!
# Steps of a plan

A valid plan becomes a list of steps in the order of its entries. Refs are distinct, a parent
stands before its children and contains them, and entries overlap only along the declared
parents. A plan is valid as a whole or not at all.
-/
namespace AddressPlan.Plan

structure Step where
  entry : Entry
  ref : String
  name : String
  cidr : Prefix
  parentRef : Option String
  /-- Where the parent stands in the plan. -/
  parent : Option Nat
deriving DecidableEq

def stepOf? (steps : List Step) (ref : String) : Option (Step × Nat) :=
  steps.zipIdx.find? fun (step, _) => step.ref = ref

/-- Where the declared parent of an entry stands, once it is found and contains the entry. -/
def parentOf (done : List Step) (label : EntryLabel) (cidr : Prefix) :
    Option String → Except Refusal (Option Nat)
  | none => .ok none
  | some parent =>
    match stepOf? done parent with
    | none => .error (.invalid (.strayParent label parent))
    | some (step, i) => (validChild (some label) step.cidr cidr).map fun _ => some i

def stepAfter (limits : Limits) (done : List Step) (e : Entry) : Except Refusal Step := do
  let label := e.label done.length
  let ref := Text.trim e.ref
  if ref.isEmpty then throw (.invalid (.blankRef label))
  if (stepOf? done ref).isSome then throw (.invalid (.duplicateRef ref))
  let planned ← (e.planned limits done.length).mapError .invalid
  let parent ← parentOf done label planned.cidr e.parent
  return {
    entry := e
    ref := ref
    name := planned.name
    cidr := planned.cidr
    parentRef := e.parent
    parent := parent }

def stepsAfter (limits : Limits) (done : List Step) : List Entry → Except Refusal (List Step)
  | [] => .ok done
  | e :: es => do
    let step ← stepAfter limits done e
    stepsAfter limits (done ++ [step]) es

/-- The places on the chain of parents from place `i` upward, `i` included, at most `fuel` of
them. Parents stand before their children, so a chain is no longer than the plan. -/
def lineage (steps : List Step) : Nat → Nat → List Nat
  | 0, _ => []
  | fuel + 1, i =>
    i :: match steps[i]?.bind Step.parent with
      | some parent => lineage steps fuel parent
      | none => []

/-- The first earlier step that the step at place `i` overlaps without being declared under. -/
def strayOverlap? (steps : List Step) (index : Prefix.Index) (step : Step) (i : Nat) :
    Option Invalid :=
  let chain := lineage steps steps.length i
  ((index.overlapping step.cidr).filter (· < i)).findSome? fun j =>
    if j ∈ chain then none
    else steps[j]?.map fun other => .undeclaredOverlap step.ref step.cidr other.ref other.cidr

def checkOverlaps (steps : List Step) : Except Invalid Unit :=
  let index := Prefix.Index.ofList (steps.map Step.cidr)
  match steps.zipIdx.findSome? fun (step, i) => strayOverlap? steps index step i with
  | some fault => .error fault
  | none => .ok ()

def checkStatus (status : Option String) : Except Invalid Unit :=
  (readGiven PoolStatus.read status).map fun _ => ()

def Request.steps (limits : Limits) (r : Request) : Except Refusal (List Step) := do
  if r.entries.isEmpty then throw (.invalid .emptyPlan)
  (checkStatus r.status).mapError Refusal.invalid
  let steps ← stepsAfter limits [] r.entries
  (checkOverlaps steps).mapError Refusal.invalid
  return steps

end AddressPlan.Plan
