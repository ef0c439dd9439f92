import Mathlib
import AddressPlan.Proofs.Ancestry.Scans
import AddressPlan.Proofs.Engine.Rounds
import AddressPlan.Proofs.Plan.WellFormed
/-!
# The dry run of a plan

A dry run looks at the entries of a plan alone and knows nothing of refs and parents. Whatever it
finds, the execution finds as well: the conflicts that it lists are those that the execution is
refused with, and a plan that it refuses is not executed.
-/
namespace AddressPlan
open Plan (Entry Step Request)

namespace Plan

variable {limits : Limits} {r : Request} {steps : List Step}

def Step.planned (step : Step) : PlannedPool :=
  ⟨step.name, step.cidr⟩

private theorem Step.Stands.planned {e : Entry} {step : Step} (h : step.Stands limits e)
    (position : Nat) : e.planned limits position = .ok step.planned := by
  rw [Entry.planned, h.name, h.cidr]
  rfl

private theorem plannedFrom_of_stands {entries : List Entry}
    (h : List.Forall₂ (fun e step => step.Stands limits e) entries steps) (position : Nat) :
    plannedFrom limits position entries = .ok (steps.map Step.planned) := by
  induction h generalizing position with
  | nil => rfl
  | cons hstands _ ih =>
    rw [plannedFrom, hstands.planned position]
    exact bind_eq_ok.mpr ⟨_, rfl, bind_eq_ok.mpr ⟨_, ih (position + 1), rfl⟩⟩

private theorem Request.Valid.planned (h : r.Valid limits steps) :
    Plan.planned limits r.entries = .ok (steps.map Step.planned) :=
  plannedFrom_of_stands h.stands 0

end Plan

namespace Engine
open AddressPlan.Action (perform)
open Session (store)

variable {limits : Limits} {r : Request} {steps : List Step} {s : Session}

/-- The conflicts of some steps with stored pools: for each step in order, those with each pool in
order. -/
def stepConflicts (steps : List Step) (pools : List Pool) : List Conflict :=
  steps.flatMap fun step => pools.filterMap step.planned.conflict?

private theorem conflictsOf_planned (steps : List Step) (m : Memory) :
    conflictsOf (steps.map Step.planned) m.pools.rows = stepConflicts steps m.pools.rows := by
  rw [conflictsOf_eq_flatMap _ m.pools.ascending, List.flatMap_map]
  rfl

/-- How the dry run of the entries of a plan and the execution of the plan go together, both begun
on the same session. -/
structure DryRunAgrees (limits : Limits) (r : Request) (s : Session) : Prop where
  valid : ∀ steps, r.steps limits = .ok steps → ∃ response,
    perform store (checkPlan limits ⟨r.entries⟩) s = (.ok response, s.tick) ∧
    response.totalPools = r.entries.length ∧
    response.conflictCount = response.conflicts.length ∧
    response.conflicts = stepConflicts steps s.memory.pools.rows ∧
    (response.conflicts ≠ [] →
      perform store (applyPlan limits r) s =
        (.error (.clash (.plan response.conflicts)), s.tick)) ∧
    (response.conflicts = [] →
      ∃ report t, perform store (applyPlan limits r) s = (.ok report, t))
  refused : ∀ refusal t, perform store (checkPlan limits ⟨r.entries⟩) s = (.error refusal, t) →
    t = s ∧ ∃ refusal', perform store (applyPlan limits r) s = (.error refusal', s)

private theorem checkPlan_of_planned {entries : List Entry} {planned : List PlannedPool}
    (hplanned : Plan.planned limits entries = .ok planned) (hlist : s.Admits s.faults.list) :
    perform store (checkPlan limits ⟨entries⟩) s =
      (.ok ⟨conflictsOf planned s.memory.pools.rows, planned.length,
        (conflictsOf planned s.memory.pools.rows).length⟩, s.tick) := by
  rw [checkPlan, Action.perform_bind_of_ok (Action.perform_valid_of_ok hplanned s),
    Action.perform_bind_of_ok (Session.perform_list_of_admits hlist)]
  rfl

private theorem checkPlan_of_invalid {entries : List Entry} {cause : Invalid}
    (hplanned : Plan.planned limits entries = .error cause) :
    perform store (checkPlan limits ⟨entries⟩) s = (.error (.invalid cause), s) := by
  rw [checkPlan, Action.perform_bind_of_error (Action.perform_valid_of_error hplanned s)]

theorem checkConflicts_of_admits (steps : List Step) (hlist : s.Admits s.faults.list) :
    perform store (checkConflicts steps) s =
      (if (stepConflicts steps s.memory.pools.rows).isEmpty then .ok ()
        else .error (.clash (.plan (stepConflicts steps s.memory.pools.rows))), s.tick) := by
  have hsame := conflictsOf_planned steps s.memory
  have hplanned : (steps.map fun step => PlannedPool.mk step.name step.cidr) =
      steps.map Step.planned := rfl
  rw [checkConflicts, Action.perform_bind_of_ok (Session.perform_list_of_admits hlist)]
  simp only [hplanned, hsame]
  split
  · rfl
  · rfl

private theorem applyPlan_of_invalid {refusal : Refusal}
    (hsteps : r.steps limits = .error refusal) :
    perform store (applyPlan limits r) s = (.error refusal, s) := by
  rw [applyPlan, runPlan_eq,
    Action.perform_bind_of_error (Action.perform_ofExcept_of_eq hsteps s)]

/-- A dry run and a gated execution agree, as long as the pools can be listed. -/
theorem dryRunAgrees (limits : Limits) (r : Request) (hlist : s.Admits s.faults.list)
    (hgated : r.skipConflicts = false) : DryRunAgrees limits r s where
  valid := by
    intro steps hsteps
    have hvalid := Plan.valid_of_steps hsteps
    have hcheck := checkPlan_of_planned hvalid.planned hlist
    rw [conflictsOf_planned] at hcheck
    have hgate := checkConflicts_of_admits steps hlist
    rw [← planGate_of_gated hgated] at hgate
    refine ⟨_, hcheck, ?_, rfl, rfl, fun hsome => ?_, fun hnone => ?_⟩
    · rw [List.length_map, hvalid.stands.length_eq]
    · rw [if_neg (by simpa using hsome)] at hgate
      exact runPlan_of_refused hsteps hgate
    · rw [if_pos (by simpa using hnone)] at hgate
      exact ⟨_, _, perform_runPlan hsteps hgate⟩
  refused := by
    intro refusal t hrefused
    cases hplanned : Plan.planned limits r.entries with
    | ok planned => cases (checkPlan_of_planned hplanned hlist).symm.trans hrefused
    | error cause =>
      cases (checkPlan_of_invalid hplanned).symm.trans hrefused
      refine ⟨rfl, ?_⟩
      -- the steps of a plan carry all that a dry run looks at
      cases hsteps : r.steps limits with
      | ok steps => cases hplanned.symm.trans (Plan.valid_of_steps hsteps).planned
      | error refusal' => exact ⟨refusal', applyPlan_of_invalid hsteps⟩

/-- A plan of two nested blocks that meet a stored pool, under a token that fires later. -/
theorem dryRunAgrees_nested :
    let pool : Pool := ⟨7, "lab", .ofAddress 0x0A000000 16 (by decide), .vpc, .active, some 9,
      .manual, "", .empty, .epoch, .epoch⟩
    let s := { Session.fresh (Memory.empty.addPool pool) .epoch with token := ⟨some 2⟩ }
    let plan : Request := ⟨[.of "a" "outer" "10.0.0.0/8",
      { Entry.of "b" "inner" "10.0.1.0/24" with parentRef := some "a" }], none, .empty, false⟩
    let conflicts : List Conflict := [
      ⟨.ofAddress 0x0A000000 8 (by decide), "outer", 7, "lab", pool.cidr, .contains⟩,
      ⟨.ofAddress 0x0A000100 24 (by decide), "inner", 7, "lab", pool.cidr, .containedBy⟩]
    s.Admits s.faults.list ∧ plan.skipConflicts = false ∧ DryRunAgrees .standard plan s ∧
      perform store (checkPlan .standard ⟨plan.entries⟩) s = (.ok ⟨conflicts, 2, 2⟩, s.tick) ∧
      perform store (applyPlan .standard plan) s = (.error (.clash (.plan conflicts)), s.tick) := by
  intro pool s plan conflicts
  have hlist : s.Admits s.faults.list := ⟨rfl, rfl, rfl⟩
  have hsteps : plan.steps .standard = .ok [
      ⟨.of "a" "outer" "10.0.0.0/8", "a", "outer", .ofAddress 0x0A000000 8 (by decide), none, none⟩,
      ⟨{ Entry.of "b" "inner" "10.0.1.0/24" with parentRef := some "a" }, "b", "inner",
        .ofAddress 0x0A000100 24 (by decide), some "a", some 0⟩] :=
    Plan.Request.steps_of_checks (by decide) (by decide +kernel) (by decide +kernel) (by cbv)
  have hagrees := dryRunAgrees .standard plan hlist rfl
  obtain ⟨⟨found, total, count⟩, hcheck, htotal, hcount, hfound, happly, -⟩ :=
    hagrees.valid _ hsteps
  obtain rfl : found = conflicts := hfound.trans (by decide +kernel)
  obtain rfl : total = 2 := htotal
  obtain rfl : count = 2 := hcount
  exact ⟨hlist, rfl, hagrees, hcheck, happly (List.cons_ne_nil _ _)⟩

end Engine
end AddressPlan
