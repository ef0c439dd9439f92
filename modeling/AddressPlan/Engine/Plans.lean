import AddressPlan.Engine.Pools
import AddressPlan.Plan.Steps
/-!
# Operations on plans

The dry run of a plan and its execution. Validation and the check for conflicts come before any
change and refuse the plan as a whole. Pools are then created one after the other; one that fails
is noted, the entries below it are left out, and the rest goes on. Only a cancellation ends it.
-/
namespace AddressPlan.Engine
open Plan (Step Report)

def checkPlan (limits : Limits) (request : Plan.CheckRequest) : Action Plan.CheckResponse := do
  let planned ← Action.valid (Plan.planned limits request.entries)
  let existing ← Action.list
  let conflicts := conflictsOf planned existing
  return {
    conflicts := conflicts
    totalPools := planned.length
    conflictCount := conflicts.length }

/-- The kind of a step, and a warning where it is not the one that the entry names. -/
def stepKind (step : Step) : PoolKind × List String :=
  match step.entry.kind.bind Text.nonBlank? with
  | none => (.subnet, ["pool '" ++ step.ref ++ "': type not set, defaulting to subnet"])
  | some label =>
    match PoolKind.read label with
    | .ok kind => (kind, [])
    | .error _ =>
      (.subnet, ["pool '" ++ step.ref ++ "': unknown type '" ++ label ++
        "', defaulting to subnet"])

/-- The id that a step's pool gets as its parent: none for a root, and nothing at all if the
parent's pool has not been created. -/
def stepParent? (report : Report) (step : Step) : Option (Option PoolId) :=
  match step.parentRef with
  | none => some none
  | some ref => (report.pools.find? ref).map fun (_, id) => some id

def stepDraft (request : Plan.Request) (status : PoolStatus) (kind : PoolKind)
    (parent : Option PoolId) (step : Step) : PoolDraft where
  name := step.name
  cidr := step.cidr
  kind := kind
  status := status
  parent := parent
  source := .planner
  description := step.entry.description.getD ""
  tags := request.tags.union step.entry.tags

def noteCreated (report : Report) (step : Step) (pool : Pool) : Report :=
  { report with
    created := report.created + 1
    pools := report.pools.insert (step.ref, pool.id)
    root := if step.parentRef.isNone then some pool.id else report.root }

def noteSkipped (report : Report) (count : Nat) (reason : String) : Report :=
  { report with
    skipped := report.skipped + count
    errors := report.errors ++ [reason] }

def createSteps (policy : OverlapPolicy) (request : Plan.Request) (status : PoolStatus) :
    List Step → Report → Script Report
  | [], report => pure report
  | step :: steps, report => do
    let (kind, warnings) := stepKind step
    let report := { report with warnings := report.warnings ++ warnings }
    match stepParent? report step with
    | none =>
      createSteps policy request status steps <| noteSkipped report 1 <|
        "pool '" ++ step.ref ++ "': parent_ref '" ++ step.parentRef.getD "" ++
          "' was not created, skipping"
    | some parent =>
      match ← (createDraft policy (stepDraft request status kind parent step)).run with
      | .ok pool => createSteps policy request status steps (noteCreated report step pool)
      | .error .cancelled =>
        let remaining := steps.length + 1
        return noteSkipped report remaining <|
          "cancelled before pool '" ++ step.ref ++ "', " ++ remaining.repr ++
            " entries not processed"
      | .error refusal =>
        createSteps policy request status steps <| noteSkipped report 1 <|
          "pool '" ++ step.ref ++ "': " ++ refusal.message

def planStatus (request : Plan.Request) : PoolStatus :=
  match request.status.map PoolStatus.read with
  | some (.ok status) => status
  | _ => .planned

def checkConflicts (steps : List Step) : Action Unit := do
  let existing ← Action.list
  let conflicts := conflictsOf (steps.map fun step => ⟨step.name, step.cidr⟩) existing
  if conflicts.isEmpty then return
  else throw (.clash (.plan conflicts))

def runPlan (limits : Limits) (policy : OverlapPolicy) (request : Plan.Request) :
    Action Report := do
  let steps ← Action.ofExcept (request.steps limits)
  if request.skipConflicts then pure () else checkConflicts steps
  ExceptT.lift (createSteps policy request (planStatus request) steps .empty)

/-- Runs a plan. The check for conflicts has settled what a look for overlaps at each creation
would find, so none is made. -/
def applyPlan (limits : Limits) (request : Plan.Request) : Action Report :=
  runPlan limits .skip request

end AddressPlan.Engine
