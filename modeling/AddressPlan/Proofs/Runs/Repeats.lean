import Mathlib
import AddressPlan.Proofs.Engine.DryRun
import AddressPlan.Proofs.Engine.Progress
import AddressPlan.Proofs.Runs.Events
import AddressPlan.Proofs.Store.Visits
/-!
# Plans that are run again

A plan that has created a pool is refused when it is run again with its gate, whatever has happened
in between. No pool is replaced before its id is given out again, and blocks never change, so every
pool of the first report still stands where its entry wants to be, and the gate lists it. This does
not depend on how far the first run came, nor on whether it had a gate.
-/
namespace AddressPlan
open AddressPlan.Action (perform)
open Plan (Step Report Request)
open Session (store)

/-- Pools that were created from an id on, when a session had created as many as `base`, are still
there, until as many have been created as there are ids. -/
def Session.Holds (recorded : List Pool) (first : PoolId) (base created : Nat) (m : Memory) :
    Prop :=
  created ≤ base + 2 ^ 64 → ∃ count, created = base + count ∧ recorded.length ≤ count ∧
    m.nextId = first + UInt64.ofNat count ∧
      ∀ pool ∈ recorded, ∃ q ∈ m.pools.rows, q.SetOnce pool

private theorem Session.holds_keptByChanges {recorded : List Pool} {first : PoolId} {base : Nat}
    {allowed : Memory → PoolDraft → Prop}
    (hids : ∀ (k : Nat) (pool : Pool), recorded[k]? = some pool →
      pool.id = first + UInt64.ofNat k) :
    Memory.KeptByChanges allowed (Holds recorded first base) := by
  intro m n more created hchange h hfew
  obtain ⟨count, hcount, hlength, hnext, hholds⟩ := h (Nat.le_trans (Nat.le_add_right _ _) hfew)
  cases hchange with
  | stored now haccepts =>
    refine ⟨count + 1, by omega, by omega, ?_, fun pool hpool => ?_⟩
    · rw [add_ofNat_succ, ← hnext]
      rfl
    · obtain ⟨q, hq, hsame⟩ := hholds pool hpool
      obtain ⟨k, hk⟩ := List.mem_iff_getElem?.mp hpool
      have hlt := (List.getElem?_eq_some_iff.mp hk).1
      refine ⟨q, Memory.mem_rows_push.mpr (.inr ⟨hq, ?_⟩), hsame⟩
      rw [hsame.id, hids k pool hk, hnext]
      exact add_ofNat_ne (by omega) (by omega)
  | changed now change hfind =>
    obtain ⟨f, hrows, hf⟩ := Memory.rows_change now change hfind
    refine ⟨count, hcount, hlength, hnext, fun pool hpool => ?_⟩
    obtain ⟨q, hq, hsame⟩ := hholds pool hpool
    refine ⟨f q, ?_, (hf q hq).trans hsame⟩
    rw [hrows]
    exact List.mem_map_of_mem hq
  | accounts accounts => exact ⟨count, hcount, hlength, hnext, hholds⟩

private theorem Session.holds_after {limits : Limits} {s : Session} {events : List Event}
    {recorded : List Pool} {first : PoolId} {base : Nat}
    (hids : ∀ (k : Nat) (pool : Pool), recorded[k]? = some pool →
      pool.id = first + UInt64.ofNat k)
    (hevents : ∀ pool, .addPool pool ∉ events)
    (h : Holds recorded first base s.created s.memory) :
    Holds recorded first base (s.after limits events).created (s.after limits events).memory := by
  have hstores : ∀ event ∈ events, event.Stores limits fun _ _ => True := by
    intro event hmem
    cases event with
    | command command => cases command <;> simp [Event.Stores, Engine.Command.Stores]
    | addPool pool => exact absurd hmem (hevents pool)
    | _ => trivial
  exact Session.kept_after (Session.holds_keptByChanges hids) hstores h

namespace Engine

/-- Some conflicts name every pool that a report has for a ref: its block is the one that the entry
with this ref asks for. -/
private def MeetsReport (limits : Limits) (request : Request) (report : Report)
    (conflicts : List Conflict) : Prop :=
  ∀ ref id, report.pools.find? ref = some (ref, id) →
    ∃ e ∈ request.entries, Text.trim e.ref = ref ∧
      ∃ conflict ∈ conflicts, validCidr limits e.cidr = .ok conflict.plannedCidr ∧
        conflict.existingId = id ∧ conflict.overlap = .contains

variable {limits : Limits} {request : Request} {report : Report} {steps : List Step}
  {s t u : Session} {step : Step} {pool : Pool}

private theorem mem_stepConflicts {pools : List Pool} (hstep : step ∈ steps) (hpool : pool ∈ pools)
    (hcidr : pool.cidr = step.cidr) :
    ⟨step.cidr, step.name, pool.id, pool.name, pool.cidr, .contains⟩ ∈
      stepConflicts steps pools := by
  refine List.mem_flatMap.mpr ⟨step, hstep, List.mem_filterMap.mpr ⟨pool, hpool, ?_⟩⟩
  simp [PlannedPool.conflict?, classify, Step.planned, hcidr]

theorem Progress.holds {status : PoolStatus} {g : Stage}
    (h : Progress request status steps s g) : Session.Holds g.made.reduceOption s.memory.nextId
      s.created g.session.created g.session.memory := by
  intro hfew
  rw [h.counted] at hfew
  refine ⟨_, h.counted, Nat.le_refl _, h.nextId, fun pool hpool => ?_⟩
  obtain ⟨i, hi⟩ := mem_reduceOption_iff.mp hpool
  exact ⟨pool, h.mem_rows hi (hi.recent (by omega)), .refl pool⟩

private theorem Progress.meetsReport {status : PoolStatus} {g : Stage} {m : Memory}
    (h : Progress request status steps s g) (hvalid : request.Valid limits steps)
    (hholds : ∀ pool ∈ g.made.reduceOption, ∃ q ∈ m.pools.rows, q.SetOnce pool) :
    MeetsReport limits request g.report (stepConflicts steps m.pools.rows) := by
  intro ref id hfind
  obtain ⟨i, step, pool, hstep, hpool, rfl, rfl⟩ := (h.refs ref id).mp hfind
  obtain ⟨later, hlater, hsame⟩ := hholds pool (mem_reduceOption_iff.mpr ⟨i, hpool⟩)
  have hcidr := hsame.cidr.trans (h.cidr_eq hstep hpool)
  have hconflict := mem_stepConflicts (List.mem_of_getElem? hstep) hlater hcidr
  obtain ⟨e, he, hstands⟩ := Plan.exists_of_forall₂_right hvalid.stands hstep
  exact ⟨e, List.mem_of_getElem? he, hstands.ref.symm, _, hconflict, hstands.cidr, hsame.id, rfl⟩

private theorem Progress.exists_ref {status : PoolStatus} {g : Stage}
    (h : Progress request status steps s g) (hcreated : 1 ≤ g.report.created) :
    ∃ ref id, g.report.pools.find? ref = some (ref, id) := by
  rw [h.created] at hcreated
  obtain ⟨pool, hmem⟩ := List.exists_mem_of_length_pos hcreated
  obtain ⟨i, hpool⟩ := mem_reduceOption_iff.mp hmem
  obtain ⟨step, hstep⟩ := h.exists_step hpool
  exact ⟨step.ref, pool.id, (h.refs _ _).mpr ⟨i, step, pool, hstep, hpool, rfl, rfl⟩⟩

/-- A plan that has created a pool is refused with its gate from then on, as long as the pools can
be listed, and until as many pools have been created in all as there are ids. -/
theorem refused_of_applied {events : List Event}
    (hrun : perform store (applyPlan limits request) s = (.ok report, t))
    (hcreated : 1 ≤ report.created) (hevents : ∀ pool, .addPool pool ∉ events)
    (hfew : (t.after limits events).created ≤ s.created + 2 ^ 64)
    (hmemory : u.memory = (t.after limits events).memory) (hlist : u.Admits u.faults.list) :
    ∃ conflicts, perform store (applyPlan limits { request with skipConflicts := false }) u =
        (.error (.clash (.plan conflicts)), u.tick) ∧
      u.tick.memory = u.memory ∧ MeetsReport limits request report conflicts := by
  obtain ⟨steps, made, v, hvalid, -, hv, -, -, hrounds⟩ := rounds_of_runPlan hrun
  have hinit : Progress request (planStatus request) steps s ⟨[], .empty, v⟩ := .init hv
  have hprogress := hinit.rounds hvalid.ordered hrounds
  obtain ⟨-, -, -, -, hholds⟩ := Session.holds_after hprogress.ids hevents hprogress.holds hfew
  rw [← hmemory] at hholds
  have hmeets := hprogress.meetsReport hvalid hholds
  obtain ⟨ref, id, hfind⟩ := hprogress.exists_ref hcreated
  obtain ⟨-, -, -, conflict, hconflict, -⟩ := hmeets ref id hfind
  -- the steps of a request do not depend on its gate
  have hsteps : Plan.Request.steps limits { request with skipConflicts := false } = .ok steps :=
    Plan.steps_eq_ok_iff.mpr ⟨hvalid.nonempty, hvalid.status, hvalid.stands, hvalid.ordered,
      hvalid.overlaps⟩
  have hgate := checkConflicts_of_admits steps hlist
  rw [if_neg (by simpa using List.ne_nil_of_mem hconflict)] at hgate
  exact ⟨_, runPlan_of_refused hsteps hgate, rfl, hmeets⟩

/-- A plan without a gate that creates the outer of its two pools over a stored one and fails at the
name of the inner; a run under a fired token, a change and a creation come in between. -/
theorem refused_of_applied_changed :
    let pool : Pool := ⟨7, "lab", .ofAddress 0x0A000000 16 (by decide), .vpc, .active, some 9,
      .manual, "", .empty, .epoch, .epoch⟩
    let s := Session.fresh (Memory.empty.addPool pool) .epoch
    let plan : Request := ⟨[.of "a " "outer" "10.0.0.1/8",
      { Plan.Entry.of "b" "LAB" "10.0.1.0/24" with parentRef := some "a" }], none, .empty, true⟩
    let events : List Event := [.token .fired, .command (.apply plan), .token .live,
      .command (.update 8 ⟨some "active", none, none⟩),
      .command (.create .skip ⟨"LAB 2", "10.0.1.0/24", none, none, some 8, none, none, .empty⟩)]
    (∀ pool, .addPool pool ∉ events) ∧
      ∃ report t, perform store (applyPlan .standard plan) s = (.ok report, t) ∧
        1 ≤ report.created ∧ 1 ≤ report.skipped ∧
        (t.after .standard events).created ≤ s.created + 2 ^ 64 ∧
        ∃ u : Session, u.memory = (t.after .standard events).memory ∧
          u.Admits u.faults.list ∧ ∃ conflicts,
            perform store (applyPlan .standard { plan with skipConflicts := false }) u =
                (.error (.clash (.plan conflicts)), u.tick) ∧
              u.tick.memory = u.memory ∧ MeetsReport .standard plan report conflicts := by
  intro pool s plan events
  have hevents : ∀ pool, .addPool pool ∉ events := by simp [events]
  let steps : List Step := [
    ⟨.of "a " "outer" "10.0.0.1/8", "a", "outer", .ofAddress 0x0A000000 8 (by decide), none, none⟩,
    ⟨{ Plan.Entry.of "b" "LAB" "10.0.1.0/24" with parentRef := some "a" }, "b", "LAB",
      .ofAddress 0x0A000100 24 (by decide), some "a", some 0⟩]
  have hsteps : plan.steps .standard = .ok steps :=
    Plan.Request.steps_of_checks (by decide) (by decide +kernel) (by decide +kernel) (by cbv)
  have hrun : perform store (applyPlan .standard plan) s = _ :=
    perform_runPlan hsteps (planGate_of_ungated rfl)
  let t : Session := ((createSteps .skip plan (planStatus plan) steps .empty).run store s).2
  let fired := t.occur .standard (.token .fired)
  have happly : fired.occur .standard (.command (.apply plan)) = fired := Session.run_of_fired _ rfl
  have hafter : t.after .standard events = fired.after .standard (events.drop 2) :=
    (Session.after_cons rfl).trans (Session.after_cons happly)
  have hfew : (t.after .standard events).created ≤ s.created + 2 ^ 64 := by
    rw [hafter]
    decide +kernel
  refine ⟨hevents, _, t, hrun, by decide +kernel, by decide +kernel, hfew, ?_⟩
  refine ⟨.fresh _ .epoch, rfl, ⟨rfl, rfl, rfl⟩, ?_⟩
  exact refused_of_applied hrun (by decide +kernel) hevents hfew rfl ⟨rfl, rfl, rfl⟩

end Engine
end AddressPlan
