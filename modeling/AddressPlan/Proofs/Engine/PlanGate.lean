import AddressPlan.Proofs.Engine.DryRun
import AddressPlan.Proofs.Engine.Progress
/-!
# The gate of a plan

The check for conflicts before a plan and the check of the plan against itself together settle
what a look for overlaps at each creation would find: nothing, whichever pools of the plan have
been created so far. So such a plan keeps the overlap rule, and the looks it leaves out would not
change its run.
-/
namespace AddressPlan.Engine
open AddressPlan.Action (perform)
open Plan (Step Report Request)
open Session (store)

variable {limits : Limits} {policy : OverlapPolicy} {request : Request} {status : PoolStatus}
  {steps rest : List Step} {s t : Session} {g g' : Stage} {step : Step}

namespace Progress

private theorem unrelatedOverlaps_eq_nil {parent : Option PoolId}
    (h : Progress request status steps s g) (hvalid : request.Valid limits steps)
    (hclear : Clear steps s.memory.pools.rows) (hstep : steps[g.made.length]? = some step)
    (hparent : stepParent? g.report step = some parent) :
    unrelatedOverlaps g.session.memory.pools.rows
      (stepDraft request status (stepKind step).1 parent step) = [] := by
  rw [unrelatedOverlaps_eq_nil_iff]
  intro pool hmem hover
  change step.cidr.overlaps pool.cidr = true at hover
  rcases h.old_or_recent hmem with hold | ⟨j, hj, hrecent⟩
  · rw [hclear step (List.mem_of_getElem? hstep) pool hold] at hover
    cases hover
  · obtain ⟨other, hother⟩ := h.exists_step hj
    rw [h.cidr_eq hother hj] at hover
    -- the plan declares the new entry below the one that it overlaps
    have hreach := hvalid.overlaps _ j step other hstep hother hj.lt hover
    rcases hreach.cases_head with heq | ⟨k, hdeclares, hrest⟩
    · exact absurd (heq ▸ hj.lt) (Nat.lt_irrefl _)
    · rw [Plan.DeclaresStep, hstep] at hdeclares
      obtain ⟨q, hq, hqparent⟩ := h.parent_of_stepParent? hvalid.ordered hstep hparent hdeclares
      obtain ⟨r, hr, hascends⟩ := h.ascends hvalid.ordered hrest hrecent hq
      obtain rfl : r = pool := Option.some.inj (Option.some.inj (hr.symm.trans hj))
      exact ⟨q.id, hqparent, hascends⟩

private theorem compliant_round (h : Progress request status steps s g) (hids : s.memory.IdsBelow)
    (hroom : s.memory.nextId.toNat + g.made.reduceOption.length < 2 ^ 64)
    (hvalid : request.Valid limits steps) (hclear : Clear steps s.memory.pools.rows)
    (hcompliant : Compliant g.session.memory.pools.rows)
    (hround : Round policy request status steps g g') :
    Compliant g'.session.memory.pools.rows := by
  rcases hround.untouched_or_created with hsame | ⟨step, parent, pool, hstep, hparent, hcreated⟩
  · rw [hsame.memory]
    exact hcompliant
  · have hunrelated := h.unrelatedOverlaps_eq_nil hvalid hclear hstep hparent
    rw [hcreated.memory]
    exact compliant_push g.session.now (h.idsBelow hids hroom) hcompliant hunrelated

theorem compliant_rounds (h : Progress request status steps s g) (hids : s.memory.IdsBelow)
    (hvalid : request.Valid limits steps) (hclear : Clear steps s.memory.pools.rows)
    (hcompliant : Compliant g.session.memory.pools.rows)
    (hrounds : Relation.ReflTransGen (Round policy request status steps) g g')
    (hroom : s.memory.nextId.toNat + g'.made.reduceOption.length < 2 ^ 64) :
    Compliant g'.session.memory.pools.rows := by
  induction hrounds with
  | refl => exact hcompliant
  | tail hbefore hround ih =>
    have hle := hround.length_le
    exact (h.rounds hvalid.ordered hbefore).compliant_round hids (by omega) hvalid hclear
      (ih (by omega)) hround

private theorem createStep_enforce_eq_skip {parent : Option PoolId}
    (h : Progress request status steps s g) (hvalid : request.Valid limits steps)
    (hclear : Clear steps s.memory.pools.rows) (hlive : g.session.token = .live)
    (hlist : g.session.faults.list = none) (hstep : steps[g.made.length]? = some step)
    (hparent : stepParent? g.report step = some parent) :
    perform store (createStep .enforce request status step parent) g.session =
      perform store (createStep .skip request status step parent) g.session :=
  createDraft_enforce_eq_skip hlive hlist
    (h.unrelatedOverlaps_eq_nil hvalid hclear hstep hparent)

private theorem run_enforce_eq_skip (h : Progress request status steps s g)
    (hvalid : request.Valid limits steps) (hclear : Clear steps s.memory.pools.rows)
    (hlive : g.session.token = .live) (hlist : s.faults.list = none)
    (hrest : steps.drop g.made.length = rest) :
    g.run .enforce request status rest = g.run .skip request status rest := by
  induction rest generalizing g with
  | nil => rfl
  | cons step rest ih =>
    obtain ⟨hstep, hnext, -⟩ := next_of_drop hrest
    -- after any round that takes one step the two runs are still the same
    have go : ∀ g' : Stage, g'.made.length = g.made.length + 1 →
        g'.session.token = g.session.token → Round .skip request status steps g g' →
        g'.run .enforce request status rest = g'.run .skip request status rest := by
      intro g' hg' htoken hround
      exact ih (h.round hvalid.ordered hround) (htoken.trans hlive) (by rw [hg', hnext])
    cases hparent : stepParent? g.report step with
    | none =>
      rw [Stage.run_orphan hparent, Stage.run_orphan hparent]
      exact go _ Stage.length_leave rfl (.orphan hstep hparent)
    | some parent =>
      have hsame := h.createStep_enforce_eq_skip hvalid hclear hlive
        ((congrArg Faults.list h.faults).trans hlist) hstep hparent
      have htoken := (Session.steady_of_live hlive).token_run
        (createStep .skip request status step parent).run
      cases hrun : perform store (createStep .skip request status step parent) g.session with
      | mk answer u =>
        rw [perform] at hrun
        rw [hrun] at htoken
        have hrun' := hsame.trans hrun
        cases answer with
        | ok pool =>
          rw [Stage.run_parent hparent hrun, Stage.run_parent hparent hrun']
          exact go _ Stage.length_push htoken (.created hstep hparent hrun)
        | error refusal =>
          by_cases hcancelled : refusal = .cancelled
          · subst hcancelled
            rw [Stage.run_parent hparent hrun, Stage.run_parent hparent hrun']
          · rw [Stage.run_refused hparent hrun hcancelled,
              Stage.run_refused hparent hrun' hcancelled]
            exact go _ Stage.length_leave htoken (.refused hstep hparent hrun hcancelled)

end Progress

/-- The looks for overlaps that a run of a gated plan leaves out would change neither its answer
nor the session that it leaves. Each look is itself a call, so this is about tokens that do not
count the calls. -/
theorem runPlan_enforce_eq_applyPlan (hsteady : s.Steady) (hgated : request.skipConflicts = false) :
    perform store (runPlan limits .enforce request) s =
      perform store (applyPlan limits request) s := by
  rw [applyPlan, runPlan_eq, runPlan_eq,
    hsteady.perform_bind_of_reads (Action.reads_ofExcept _),
    hsteady.perform_bind_of_reads (Action.reads_ofExcept _), Action.perform_ofExcept]
  cases hsteps : request.steps limits with
  | error refusal => rfl
  | ok steps =>
    dsimp only
    have hvalid := Plan.valid_of_steps hsteps
    cases hgate : perform store (planGate request steps) s with
    | mk answer u =>
      have hu := hsteady.perform_of_reads (reads_planGate request steps)
      rw [hgate] at hu
      obtain rfl : u = s := hu
      cases answer with
      | error refusal =>
        rw [Action.perform_bind_of_error hgate, Action.perform_bind_of_error hgate]
      | ok _ =>
        rw [Action.perform_bind_of_ok hgate, Action.perform_bind_of_ok hgate]
        rw [planGate, if_neg (by rw [hgated]; exact Bool.false_ne_true)] at hgate
        obtain ⟨hadmits, hclear⟩ := clear_of_checkConflicts hgate
        have hlive : u.token = .live := by
          rcases hsteady.live_or_fired with hlive | hfired
          · exact hlive
          · exact absurd hadmits (Session.not_admits_of_fired hfired)
        have hinit : Progress request (planStatus request) steps u ⟨[], .empty, u⟩ :=
          .init (.refl u)
        have hsame : (createSteps .enforce request (planStatus request) steps .empty).run store u =
            (createSteps .skip request (planStatus request) steps .empty).run store u :=
          hinit.run_enforce_eq_skip hvalid hclear hlive hadmits.sound rfl
        rw [Action.perform_lift, Action.perform_lift, hsame]

/-- A plan of two nested blocks beside a stored pool, which both ways store below it. -/
theorem runPlan_enforce_eq_applyPlan_nested :
    let pool : Pool := ⟨7, "lab", .ofAddress 0x14000000 8 (by decide), .vpc, .active, some 9,
      .manual, "", .empty, .epoch, .epoch⟩
    let s := Session.fresh (Memory.empty.addPool pool) .epoch
    let plan : Request := ⟨[.of "a" "outer" "10.0.0.0/16",
      { Plan.Entry.of "b" "inner" "10.0.1.0/24" with parentRef := some "a" }], none, .empty, false⟩
    s.Steady ∧ plan.skipConflicts = false ∧ ∃ report t,
      perform store (runPlan .standard .enforce plan) s = (.ok report, t) ∧
      perform store (applyPlan .standard plan) s = (.ok report, t) ∧
      report.created = 2 ∧ t.memory.pools.rows.map (fun p => (p.id, p.name, p.parent)) =
        [(7, "lab", some 9), (8, "outer", none), (9, "inner", some 8)] := by
  intro pool s plan
  have hsteady : s.Steady := Session.steady_of_live rfl
  let steps : List Step := [
    ⟨.of "a" "outer" "10.0.0.0/16", "a", "outer", .ofAddress 0x0A000000 16 (by decide), none, none⟩,
    ⟨{ Plan.Entry.of "b" "inner" "10.0.1.0/24" with parentRef := some "a" }, "b", "inner",
      .ofAddress 0x0A000100 24 (by decide), some "a", some 0⟩]
  have hsteps : plan.steps .standard = .ok steps :=
    Plan.Request.steps_of_checks (by decide) (by decide +kernel) (by decide +kernel) (by cbv)
  have hsame : perform store (runPlan .standard .enforce plan) s =
      perform store (applyPlan .standard plan) s := runPlan_enforce_eq_applyPlan hsteady rfl
  have hgate : perform store (planGate plan steps) s = (.ok (), s.tick) :=
    (checkConflicts_of_admits steps ⟨rfl, rfl, rfl⟩).trans (by rw [if_pos (by decide +kernel)])
  have hrun : perform store (applyPlan .standard plan) s = _ := perform_runPlan hsteps hgate
  exact ⟨hsteady, rfl, _, _, hsame.trans hrun, hrun, by decide +kernel, by decide +kernel⟩

end AddressPlan.Engine
