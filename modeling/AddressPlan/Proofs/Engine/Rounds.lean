import AddressPlan.Engine.Plans
import AddressPlan.Proofs.Engine.Creation
import AddressPlan.Proofs.Plan.Steps
/-!
# The rounds of a plan

Creating the pools of a plan goes round by round. A round leaves out an entry whose parent is
missing, stores a pool, notes a refusal, or ends the plan at a cancellation. A run is a sequence
of rounds that has gone through all of the steps, so what each round keeps a run keeps.
-/
namespace AddressPlan.Engine
open AddressPlan.Action (perform)
open Plan (Step Report Request)
open Session (store)

/-- How far a plan has come: the pool of each step so far, unless it was left out, the report on
them, and the session. -/
structure Stage where
  made : List (Option Pool)
  report : Report
  session : Session

def noteWarnings (report : Report) (step : Step) : Report :=
  { report with warnings := report.warnings ++ (stepKind step).2 }

def Stage.leave (g : Stage) (step : Step) (count : Nat) (reason : String) (t : Session) :
    Stage where
  made := g.made ++ List.replicate count none
  report := noteSkipped (noteWarnings g.report step) count reason
  session := t

def Stage.push (g : Stage) (step : Step) (pool : Pool) (t : Session) : Stage where
  made := g.made ++ [some pool]
  report := noteCreated (noteWarnings g.report step) step pool
  session := t

def createStep (policy : OverlapPolicy) (request : Request) (status : PoolStatus) (step : Step)
    (parent : Option PoolId) : Action Pool :=
  createDraft policy (stepDraft request status (stepKind step).1 parent step)

def orphanReason (step : Step) : String :=
  "pool '" ++ step.ref ++ "': parent_ref '" ++ step.parentRef.getD "" ++
    "' was not created, skipping"

def refusalReason (step : Step) (refusal : Refusal) : String :=
  "pool '" ++ step.ref ++ "': " ++ refusal.message

def cancelReason (step : Step) (remaining : Nat) : String :=
  "cancelled before pool '" ++ step.ref ++ "', " ++ remaining.repr ++ " entries not processed"

inductive Round (policy : OverlapPolicy) (request : Request) (status : PoolStatus)
    (steps : List Step) : Stage → Stage → Prop
  | orphan {g : Stage} {step : Step} (hstep : steps[g.made.length]? = some step)
      (hparent : stepParent? g.report step = none) :
      Round policy request status steps g (g.leave step 1 (orphanReason step) g.session)
  | created {g : Stage} {step : Step} {parent : Option PoolId} {pool : Pool} {t : Session}
      (hstep : steps[g.made.length]? = some step)
      (hparent : stepParent? g.report step = some parent)
      (hrun : perform store (createStep policy request status step parent) g.session =
        (.ok pool, t)) :
      Round policy request status steps g (g.push step pool t)
  | refused {g : Stage} {step : Step} {parent : Option PoolId} {refusal : Refusal} {t : Session}
      (hstep : steps[g.made.length]? = some step)
      (hparent : stepParent? g.report step = some parent)
      (hrun : perform store (createStep policy request status step parent) g.session =
        (.error refusal, t)) (hne : refusal ≠ .cancelled) :
      Round policy request status steps g (g.leave step 1 (refusalReason step refusal) t)
  | cancelled {g : Stage} {step : Step} {parent : Option PoolId} {t : Session}
      (hstep : steps[g.made.length]? = some step)
      (hparent : stepParent? g.report step = some parent)
      (hrun : perform store (createStep policy request status step parent) g.session =
        (.error .cancelled, t)) :
      Round policy request status steps g
        (g.leave step (steps.length - g.made.length)
          (cancelReason step (steps.length - g.made.length)) t)

section Runs

variable (policy : OverlapPolicy) (request : Request) (status : PoolStatus)

def Stage.run (rest : List Step) (g : Stage) : Report × Session :=
  (createSteps policy request status rest g.report).run store g.session

variable {policy request status} {g : Stage} {t : Session} {step : Step} {steps rest : List Step}
  {parent : Option PoolId}

theorem Stage.run_orphan (hparent : stepParent? g.report step = none) :
    g.run policy request status (step :: rest) =
      (g.leave step 1 (orphanReason step) g.session).run policy request status rest := by
  have hwarned : stepParent? (noteWarnings g.report step) step = none := hparent
  simp only [noteWarnings] at hwarned
  rw [Stage.run, createSteps]
  simp only [hwarned]
  rfl

theorem Stage.run_parent {answer : Except Refusal Pool}
    (hparent : stepParent? g.report step = some parent)
    (hrun : perform store (createStep policy request status step parent) g.session =
      (answer, t)) :
    g.run policy request status (step :: rest) =
      match answer with
      | .ok pool => (g.push step pool t).run policy request status rest
      | .error .cancelled =>
        ((g.leave step (rest.length + 1) (cancelReason step (rest.length + 1)) t).report, t)
      | .error refusal =>
        (g.leave step 1 (refusalReason step refusal) t).run policy request status rest := by
  have hwarned : stepParent? (noteWarnings g.report step) step = some parent := hparent
  simp only [noteWarnings] at hwarned
  rw [Stage.run, createSteps]
  simp only [hwarned]
  refine (Script.run_bind store _ _ g.session).trans ?_
  have hscript : (createStep policy request status step parent).run.run store g.session =
    (answer, t) := hrun
  simp only [createStep] at hscript
  rw [hscript]
  cases answer with
  | ok pool => rfl
  | error refusal => cases refusal <;> rfl

theorem Stage.run_refused {refusal : Refusal} (hparent : stepParent? g.report step = some parent)
    (hrun : perform store (createStep policy request status step parent) g.session =
      (.error refusal, t)) (hne : refusal ≠ .cancelled) :
    g.run policy request status (step :: rest) =
      (g.leave step 1 (refusalReason step refusal) t).run policy request status rest := by
  rw [Stage.run_parent hparent hrun]
  cases refusal with
  | cancelled => exact absurd rfl hne
  | _ => rfl

theorem Stage.length_leave {count : Nat} {reason : String} :
    (g.leave step count reason t).made.length = g.made.length + count := by
  rw [Stage.leave, List.length_append, List.length_replicate]

theorem Stage.length_push {pool : Pool} :
    (g.push step pool t).made.length = g.made.length + 1 := by
  rw [Stage.push, List.length_append, List.length_singleton]

theorem next_of_drop (hrest : steps.drop g.made.length = step :: rest) :
    steps[g.made.length]? = some step ∧ steps.drop (g.made.length + 1) = rest ∧
      steps.length = g.made.length + (rest.length + 1) := by
  have hstep : steps[g.made.length]? = some step := by
    rw [← List.head?_drop, hrest, List.head?_cons]
  have hlt := (List.getElem?_eq_some_iff.mp hstep).1
  have hlength := congrArg List.length hrest
  rw [List.length_drop, List.length_cons] at hlength
  refine ⟨hstep, ?_, by omega⟩
  rw [← List.tail_drop, hrest, List.tail_cons]

private theorem Stage.round_of_run (hrest : steps.drop g.made.length = step :: rest) :
    ∃ g', Round policy request status steps g g' ∧
      (g'.made.length = g.made.length + 1 ∧
          g.run policy request status (step :: rest) = g'.run policy request status rest ∨
        g'.made.length = steps.length ∧
          g.run policy request status (step :: rest) = (g'.report, g'.session)) := by
  obtain ⟨hstep, -, hlength⟩ := next_of_drop hrest
  cases hparent : stepParent? g.report step with
  | none =>
    exact ⟨_, .orphan hstep hparent, Or.inl ⟨length_leave, run_orphan hparent⟩⟩
  | some parent =>
    cases hrun : perform store (createStep policy request status step parent) g.session with
    | mk answer t =>
      cases answer with
      | ok pool =>
        exact ⟨_, .created hstep hparent hrun, Or.inl ⟨length_push, run_parent hparent hrun⟩⟩
      | error refusal =>
        by_cases hcancelled : refusal = .cancelled
        · subst hcancelled
          refine ⟨_, .cancelled hstep hparent hrun, Or.inr ⟨?_, ?_⟩⟩
          · rw [length_leave]
            omega
          · have hremaining : steps.length - g.made.length = rest.length + 1 := by omega
            rw [hremaining]
            exact run_parent hparent hrun
        · exact ⟨_, .refused hstep hparent hrun hcancelled,
            Or.inl ⟨length_leave, run_refused hparent hrun hcancelled⟩⟩

/-- A run goes through all of the steps, round by round. -/
private theorem Stage.rounds_of_run {report : Report} (hlength : g.made.length ≤ steps.length)
    (hrest : steps.drop g.made.length = rest)
    (h : g.run policy request status rest = (report, t)) :
    ∃ made, made.length = steps.length ∧
      Relation.ReflTransGen (Round policy request status steps) g ⟨made, report, t⟩ := by
  induction rest generalizing g with
  | nil =>
    cases h
    have hdone := List.drop_eq_nil_iff.mp hrest
    exact ⟨g.made, by omega, .refl⟩
  | cons step rest ih =>
    obtain ⟨-, hnext, htotal⟩ := next_of_drop hrest
    obtain ⟨g', hround, ⟨hone, hrun⟩ | ⟨hall, hrun⟩⟩ := round_of_run hrest
    · rw [hrun] at h
      obtain ⟨made, hmade, hrounds⟩ := ih (by omega) (by rw [hone, hnext]) h
      exact ⟨made, hmade, .head hround hrounds⟩
    · rw [hrun] at h
      cases h
      exact ⟨g'.made, hall, .single hround⟩

end Runs

variable {policy : OverlapPolicy} {request : Request} {status : PoolStatus} {steps : List Step}

private theorem Round.of_fired {g g' : Stage} (h : g.session.token = .fired)
    (hround : Round policy request status steps g g') :
    g'.session = g.session ∧ g'.report.created = g.report.created := by
  have hsame : ∀ {step parent answer t},
      perform store (createStep policy request status step parent) g.session = (answer, t) →
      t = g.session := by
    intro step parent answer t hrun
    have hkept := Session.run_of_fired (createStep policy request status step parent).run h
    rw [perform] at hrun
    rwa [hrun] at hkept
  cases hround with
  | orphan hstep hparent => exact ⟨rfl, rfl⟩
  | created hstep hparent hrun =>
    have hcreated := congrArg Session.created (created_of_createDraft hrun).after
    rw [hsame hrun] at hcreated
    exact absurd hcreated (Nat.ne_of_lt (Nat.lt_succ_self _))
  | refused hstep hparent hrun hne => exact ⟨hsame hrun, rfl⟩
  | cancelled hstep hparent hrun => exact ⟨hsame hrun, rfl⟩

private theorem rounds_of_fired {g g' : Stage} (h : g.session.token = .fired)
    (hrounds : Relation.ReflTransGen (Round policy request status steps) g g') :
    g'.session = g.session ∧ g'.report.created = g.report.created := by
  induction hrounds with
  | refl => exact ⟨rfl, rfl⟩
  | tail _ hround ih =>
    obtain ⟨hsession, hcreated⟩ := hround.of_fired ((congrArg Session.token ih.1).trans h)
    exact ⟨hsession.trans ih.1, hcreated.trans ih.2⟩

theorem Round.untouched_or_created {g g' : Stage}
    (hround : Round policy request status steps g g') :
    Session.Untouched g.session g'.session ∨
      ∃ (step : Step) (parent : Option PoolId) (pool : Pool),
        steps[g.made.length]? = some step ∧ stepParent? g.report step = some parent ∧
        Created policy (stepDraft request status (stepKind step).1 parent step) g.session pool
          g'.session := by
  cases hround with
  | orphan hstep hparent => exact Or.inl (.refl _)
  | created hstep hparent hrun =>
    exact Or.inr ⟨_, _, _, hstep, hparent, created_of_createDraft hrun⟩
  | refused hstep hparent hrun hne => exact Or.inl (tidy_createDraft _ _ _ _ _ hrun)
  | cancelled hstep hparent hrun => exact Or.inl (tidy_createDraft _ _ _ _ _ hrun)

section Plans

variable {limits : Limits} {s t : Session} {report : Report}

def Clear (steps : List Step) (pools : List Pool) : Prop :=
  ∀ step ∈ steps, ∀ pool ∈ pools, step.cidr.overlaps pool.cidr = false

private theorem reads_checkConflicts (steps : List Step) : Action.Reads (checkConflicts steps) := by
  refine Action.reads_list.bind fun existing => ?_
  dsimp only
  split
  · exact Action.reads_pure ()
  · exact Action.reads_throw _

theorem clear_of_checkConflicts (h : perform store (checkConflicts steps) s = (.ok (), t)) :
    s.Admits s.faults.list ∧ Clear steps s.memory.pools.rows := by
  obtain ⟨existing, u, hlist, h⟩ := Action.perform_bind_eq_ok.mp h
  obtain ⟨hadmits, rfl⟩ := Session.list_eq_ok hlist
  refine ⟨hadmits, fun step hstep pool hpool => ?_⟩
  have hnil : conflictsOf (steps.map fun step => ⟨step.name, step.cidr⟩)
      s.memory.pools.rows = [] := by
    by_contra hne
    rw [if_neg (by simpa using hne)] at h
    cases h
  have hplan := List.mem_map_of_mem (f := fun step : Step => PlannedPool.mk step.name step.cidr)
    hstep
  exact conflictsOf_eq_nil_iff.mp hnil ⟨step.name, step.cidr⟩ hplan pool hpool

/-- The check for conflicts, unless the request leaves it out. -/
def planGate (request : Request) (steps : List Step) : Action Unit :=
  if request.skipConflicts then pure () else checkConflicts steps

theorem reads_planGate (request : Request) (steps : List Step) :
    Action.Reads (planGate request steps) := by
  unfold planGate
  split
  · exact Action.reads_pure ()
  · exact reads_checkConflicts steps

theorem runPlan_eq (limits : Limits) (policy : OverlapPolicy) (request : Request) :
    runPlan limits policy request = Action.ofExcept (request.steps limits) >>= fun steps =>
      planGate request steps >>= fun _ =>
        ExceptT.lift (createSteps policy request (planStatus request) steps .empty) := by
  unfold runPlan planGate
  cases request.skipConflicts <;> rfl

theorem tidy_runPlan (limits : Limits) (policy : OverlapPolicy) (request : Request) :
    Action.Tidy (runPlan limits policy request) := by
  rw [runPlan_eq]
  refine (Action.reads_ofExcept _).bind_tidy fun steps =>
    (reads_planGate request steps).bind_tidy fun _ => ?_
  intro s t refusal h
  rw [Action.perform_lift] at h
  cases h

theorem perform_runPlan {u : Session} (hsteps : request.steps limits = .ok steps)
    (hgate : perform store (planGate request steps) s = (.ok (), u)) :
    perform store (runPlan limits policy request) s =
      (.ok ((createSteps policy request (planStatus request) steps .empty).run store u).1,
        ((createSteps policy request (planStatus request) steps .empty).run store u).2) := by
  rw [runPlan_eq, Action.perform_bind_of_ok (Action.perform_ofExcept_of_eq hsteps s),
    Action.perform_bind_of_ok hgate, Action.perform_lift]

theorem runPlan_of_refused {u : Session} {refusal : Refusal}
    (hsteps : request.steps limits = .ok steps)
    (hgate : perform store (planGate request steps) s = (.error refusal, u)) :
    perform store (runPlan limits policy request) s = (.error refusal, u) := by
  rw [runPlan_eq, Action.perform_bind_of_ok (Action.perform_ofExcept_of_eq hsteps s),
    Action.perform_bind_of_error hgate]

theorem planGate_of_gated (hgated : request.skipConflicts = false) :
    planGate request steps = checkConflicts steps := by
  rw [planGate, hgated]
  exact if_neg Bool.false_ne_true

theorem planGate_of_ungated (hungated : request.skipConflicts = true) :
    perform store (planGate request steps) s = (.ok (), s) := by
  rw [planGate, if_pos hungated]
  rfl

/-- A plan that is run is valid, passes its gate, and goes through all of its rounds. -/
theorem rounds_of_runPlan (h : perform store (runPlan limits policy request) s = (.ok report, t)) :
    ∃ steps made u, request.Valid limits steps ∧
      (request.skipConflicts = false → Clear steps s.memory.pools.rows) ∧
      Session.Untouched s u ∧ (s.Steady → u = s) ∧ made.length = steps.length ∧
      Relation.ReflTransGen (Round policy request (planStatus request) steps)
        ⟨[], .empty, u⟩ ⟨made, report, t⟩ := by
  rw [runPlan_eq] at h
  obtain ⟨steps, v, hchecked, h⟩ := Action.perform_bind_eq_ok.mp h
  obtain ⟨hsteps, rfl⟩ := Prod.mk.inj hchecked
  obtain ⟨_, u, hgate, h⟩ := Action.perform_bind_eq_ok.mp h
  have hu : Session.Untouched s u := by
    have := reads_planGate request steps s
    rwa [hgate] at this
  rw [Action.perform_lift] at h
  obtain ⟨hreport, ht⟩ := Prod.mk.inj h
  obtain ⟨made, hmade, hrounds⟩ := Stage.rounds_of_run (g := ⟨[], .empty, u⟩) (Nat.zero_le _) rfl
    (Prod.ext (Except.ok.inj hreport) ht)
  refine ⟨steps, made, u, Plan.valid_of_steps hsteps, fun hskip => ?_, hu, fun hsteady => ?_,
    hmade, hrounds⟩
  · rw [planGate, if_neg (by rw [hskip]; exact Bool.false_ne_true)] at hgate
    exact (clear_of_checkConflicts hgate).2
  · have hsame := hsteady.perform_of_reads (reads_planGate request steps)
    rwa [hgate] at hsame

theorem runPlan_of_fired (hfired : s.token = .fired) (hungated : request.skipConflicts = true)
    (hsteps : request.steps limits = .ok steps) : ∃ report,
    perform store (runPlan limits policy request) s = (.ok report, s) ∧ report.created = 0 := by
  obtain ⟨made, -, hrounds⟩ : ∃ made, made.length = steps.length ∧
      Relation.ReflTransGen (Round policy request (planStatus request) steps) ⟨[], .empty, s⟩
        ⟨made, _, _⟩ :=
    Stage.rounds_of_run (g := ⟨[], .empty, s⟩) (Nat.zero_le _) rfl rfl
  obtain ⟨hsession, hcreated⟩ := rounds_of_fired hfired hrounds
  refine ⟨_, (perform_runPlan hsteps (planGate_of_ungated hungated)).trans ?_, hcreated⟩
  exact congrArg (Prod.mk _) hsession

end Plans

end AddressPlan.Engine
