import Mathlib
import AddressPlan.Proofs.Engine.Progress
import AddressPlan.Proofs.Text.Trim
/-!
# The report of a plan

What a caller learns from the report of a run, whatever came of the single entries: which pools
were created for which refs, and that nothing else in the store has changed. As long as no call is
cancelled it is also settled beforehand which entries get their pool.
-/
namespace AddressPlan.Engine
open AddressPlan.Action (perform)
open Plan (Step Report Request)
open Session (store)

/-- An entry is due for creation, after what has come of the entries before it: its parent was
created, no failure is set for its name, and the name is free. -/
structure Due (s : Session) (steps : List Step) (before : List (Option Pool)) (step : Step) :
    Prop where
  parent : ∀ ref, step.parentRef = some ref → ∃ (j : Nat) (above : Step) (pool : Pool),
    steps[j]? = some above ∧ above.ref = ref ∧ before[j]? = some (some pool)
  sound : s.faults.creates.find? step.name = none
  name : ∀ pool ∈ s.memory.pools.rows ++ before.reduceOption,
    Text.lowercase pool.name ≠ Text.lowercase step.name

variable {limits : Limits} {policy : OverlapPolicy} {request : Request} {status : PoolStatus}
  {steps : List Step} {s t : Session} {g g' : Stage} {step : Step} {parent : Option PoolId}

namespace Progress

private theorem stepParent?_isSome_iff (h : Progress request status steps s g) :
    (∃ parent, stepParent? g.report step = some parent) ↔
      ∀ ref, step.parentRef = some ref → ∃ (j : Nat) (above : Step) (pool : Pool),
        steps[j]? = some above ∧ above.ref = ref ∧ g.made[j]? = some (some pool) := by
  constructor
  · rintro ⟨parent, hparent⟩ ref href
    rcases stepParent?_eq_some_iff.mp hparent with ⟨hroot, -⟩ | ⟨ref', id, href', hfind, -⟩
    · rw [hroot] at href
      cases href
    · obtain rfl := Option.some.inj (href'.symm.trans href)
      obtain ⟨j, above, pool, hj, hpool, habove, -⟩ := (h.refs _ _).mp hfind
      exact ⟨j, above, pool, hj, habove, hpool⟩
  · intro habove
    cases href : step.parentRef with
    | none => exact ⟨none, stepParent?_eq_some_iff.mpr (Or.inl ⟨href, rfl⟩)⟩
    | some ref =>
      obtain ⟨j, above, pool, hj, hrefAbove, hpool⟩ := habove ref href
      have hfind := (h.refs ref pool.id).mpr ⟨j, above, pool, hj, hpool, hrefAbove, rfl⟩
      exact ⟨some pool.id, stepParent?_eq_some_iff.mpr (Or.inr ⟨ref, _, href, hfind, rfl⟩)⟩

private theorem due_iff_stores (h : Progress request status steps s g) (hids : s.memory.IdsBelow)
    (hroom : s.memory.nextId.toNat + g.made.reduceOption.length ≤ 2 ^ 64)
    (hordered : Plan.Ordered steps) (hlive : g.session.token = .live)
    (hcalls : s.faults.cancelAfter = none)
    (hstep : steps[g.made.length]? = some step)
    (hparent : stepParent? g.report step = some parent) :
    Due s steps g.made step ↔
      g.session.Stores (stepDraft request status (stepKind step).1 parent step) := by
  have hfault : g.session.createFault step.name = none ↔
      s.faults.creates.find? step.name = none := by
    rw [Session.createFault, Option.map_eq_none_iff, h.faults]
  have hname : g.session.memory.holder? step.name = none ↔
      ∀ pool ∈ s.memory.pools.rows ++ g.made.reduceOption,
        Text.lowercase pool.name ≠ Text.lowercase step.name := by
    rw [Memory.holder?_eq_none_iff, h.rows hids hroom]
  have hfew : g.made.reduceOption.length ≤ 2 ^ 64 := by omega
  constructor
  · intro hdue
    refine ⟨⟨?_, hfault.mpr hdue.sound, ?_⟩, ?_, hname.mpr hdue.name⟩
    · rw [Session.exhausted, h.faults, hcalls]
    · rw [hlive]
      rfl
    · intro id hid
      obtain ⟨q, hfind, -⟩ := h.places hordered hfew hstep hparent id hid
      rw [hfind]
      rfl
  · intro hstores
    exact ⟨h.stepParent?_isSome_iff.mp ⟨parent, hparent⟩, hfault.mp hstores.admits.sound,
      hname.mp hstores.accepts.name⟩

private theorem not_due_of_refused {refusal : Refusal} (h : Progress request status steps s g)
    (hids : s.memory.IdsBelow)
    (hroom : s.memory.nextId.toNat + g.made.reduceOption.length ≤ 2 ^ 64)
    (hordered : Plan.Ordered steps) (hlive : g.session.token = .live)
    (hcalls : s.faults.cancelAfter = none) (hstep : steps[g.made.length]? = some step)
    (hparent : stepParent? g.report step = some parent)
    (hrun : perform store (createStep .skip request status step parent) g.session =
      (.error refusal, t)) : ¬Due s steps g.made step := by
  intro hdue
  have hstores := (h.due_iff_stores hids hroom hordered hlive hcalls hstep hparent).mp hdue
  have hplaces := h.places hordered (by omega) hstep hparent
  have hok := createDraft_of_stores (Session.steady_of_live hlive) hplaces hstores
  cases hok.symm.trans hrun

end Progress

private theorem token_of_createStep {answer : Except Refusal Pool}
    (hlive : s.token = .live)
    (hrun : perform store (createStep policy request status step parent) s = (answer, t)) :
    t.token = .live := by
  have hkept :=
    (Session.steady_of_live hlive).token_run (createStep policy request status step parent).run
  rw [perform] at hrun
  rw [hrun] at hkept
  exact hkept.trans hlive

/-- What is settled at a stage of a run in which no call is cancelled. -/
structure Decided (s : Session) (steps : List Step) (g : Stage) : Prop where
  live : g.session.token = .live
  errors : g.report.errors.length = g.report.skipped
  iff_due : ∀ (i : Nat) (step : Step), steps[i]? = some step → i < g.made.length →
    ((∃ pool, g.Has i pool) ↔ Due s steps (g.made.take i) step)

namespace Decided

private theorem iff_due_concat (h : Decided s steps g) {last : Option Pool}
    (hstep : steps[g.made.length]? = some step)
    (hlast : (∃ pool, last = some pool) ↔ Due s steps g.made step) (i : Nat) (other : Step)
    (hother : steps[i]? = some other) (hi : i < (g.made ++ [last]).length) :
    (∃ pool, (g.made ++ [last])[i]? = some (some pool)) ↔
      Due s steps ((g.made ++ [last]).take i) other := by
  rw [List.length_append, List.length_singleton] at hi
  rcases Nat.lt_succ_iff_lt_or_eq.mp hi with hlt | rfl
  · rw [List.getElem?_append_left hlt, List.take_append_of_le_length (Nat.le_of_lt hlt)]
    exact h.iff_due i other hother hlt
  · obtain rfl := Option.some.inj (hstep.symm.trans hother)
    rw [List.getElem?_concat_length, List.take_left]
    simpa using hlast

private theorem leave {reason : String} (h : Decided s steps g)
    (hstep : steps[g.made.length]? = some step) (hdue : ¬Due s steps g.made step)
    (hlive : t.token = .live) : Decided s steps (g.leave step 1 reason t) := by
  refine ⟨hlive, ?_, h.iff_due_concat hstep ⟨fun ⟨_, hnone⟩ => (nomatch hnone), fun hd => ?_⟩⟩
  · simp only [Stage.leave, noteSkipped, noteWarnings, List.length_append, List.length_singleton,
      h.errors]
  · exact absurd hd hdue

theorem round (h : Decided s steps g) (hprogress : Progress request status steps s g)
    (hids : s.memory.IdsBelow)
    (hroom : s.memory.nextId.toNat + g.made.reduceOption.length ≤ 2 ^ 64)
    (hordered : Plan.Ordered steps) (hcalls : s.faults.cancelAfter = none)
    (hround : Round .skip request status steps g g') : Decided s steps g' := by
  have hsteady := Session.steady_of_live h.live
  have hopen : g.session.exhausted = false := by
    rw [Session.exhausted, hprogress.faults, hcalls]
  have hunfired : g.session.token.hasFired = false := by
    rw [h.live]
    rfl
  cases hround with
  | orphan hstep hparent =>
    refine h.leave hstep (fun hdue => ?_) h.live
    obtain ⟨parent, hsome⟩ := hprogress.stepParent?_isSome_iff.mpr hdue.parent
    rw [hparent] at hsome
    cases hsome
  | @created step parent pool t hstep hparent hrun =>
    have hcreated := created_of_createDraft hrun
    have hdue := (hprogress.due_iff_stores hids hroom hordered h.live hcalls hstep hparent).mpr
      ⟨⟨hopen, hcreated.sound, hunfired⟩, hcreated.accepts⟩
    refine ⟨token_of_createStep h.live hrun, h.errors, h.iff_due_concat hstep ?_⟩
    exact ⟨fun _ => hdue, fun _ => ⟨pool, rfl⟩⟩
  | refused hstep hparent hrun hne =>
    have hdue := hprogress.not_due_of_refused hids hroom hordered h.live hcalls hstep hparent hrun
    exact h.leave hstep hdue (token_of_createStep h.live hrun)
  | cancelled hstep hparent hrun =>
    exact absurd rfl (createDraft_ne_cancelled hsteady ⟨hopen, rfl, hunfired⟩ hrun)

theorem rounds (h : Decided s steps g) (hprogress : Progress request status steps s g)
    (hids : s.memory.IdsBelow) (hordered : Plan.Ordered steps)
    (hcalls : s.faults.cancelAfter = none)
    (hrounds : Relation.ReflTransGen (Round .skip request status steps) g g')
    (hroom : s.memory.nextId.toNat + g'.made.reduceOption.length ≤ 2 ^ 64) :
    Decided s steps g' := by
  induction hrounds with
  | refl => exact h
  | tail hbefore hround ih =>
    have hle := hround.length_le
    exact (ih (by omega)).round (hprogress.rounds hordered hbefore) hids (by omega) hordered
      hcalls hround

end Decided

end AddressPlan.Engine
