import AddressPlan.Proofs.Engine.Commands
import AddressPlan.Proofs.Store.Counter
/-!
# Changes of the memory

Whatever is asked of the engine, its memory goes through changes of few kinds: an accepted draft
becomes the pool under the next id, a pool is changed in its place, or the accounts are others.
Which drafts come to be stored depends on the commands. What every change with such a draft keeps,
every command keeps, however far a plan comes.
-/
namespace AddressPlan
open AddressPlan.Action (Keeps)
open Session (Untouched)

variable {allowed : Memory → PoolDraft → Prop} {P : Nat → Memory → Prop} {limits : Limits}

/-- One change of a memory in which only allowed drafts are stored, with the number of pools that it
creates. -/
inductive Memory.Change (allowed : Memory → PoolDraft → Prop) (m : Memory) : Nat → Memory → Prop
  | stored {draft : PoolDraft} (now : Instant) (haccepts : m.Accepts draft)
      (hallowed : allowed m draft) : m.Change allowed 1 (m.push now draft)
  | changed {id : PoolId} {old : Pool} (now : Instant) (change : PoolUpdate)
      (hfind : m.pools.find? id = some old) :
      m.Change allowed 0
        { m with pools := m.pools.insert { change.applyTo old with updatedAt := now } }
  | accounts (accounts : Keyed AccountId Account.id) :
      m.Change allowed 0 { m with accounts := accounts }

namespace Engine.Command

/-- Every draft that the command may come to store is allowed. The engine has found the place of a
draft before it stores it; a creation that goes past the engine has not. -/
def Stores (limits : Limits) (allowed : Memory → PoolDraft → Prop) : Command → Prop
  | create _ request => ∀ m draft, request.validate limits = .ok draft → m.Places draft →
      allowed m draft
  | createDraft _ draft => ∀ m, m.Places draft → allowed m draft
  | storeCreate draft => ∀ m, allowed m draft
  | apply request => ∀ m steps step status kind parent, request.steps limits = .ok steps →
      step ∈ steps → m.Places (stepDraft request status kind parent step) →
      allowed m (stepDraft request status kind parent step)
  | _ => True

/-- The command creates pools only under parents that contain them. A creation that goes past the
engine does not look. -/
def ChecksParent : Command → Prop
  | .storeCreate _ => False
  | _ => True

theorem ChecksParent.stores {command : Command} (h : command.ChecksParent) :
    command.Stores limits Memory.Places := by
  cases command with
  | create policy request => exact fun _ _ _ hplaces => hplaces
  | createDraft policy draft => exact fun _ hplaces => hplaces
  | storeCreate draft => exact h.elim
  | apply request => exact fun _ _ _ _ _ _ _ _ hplaces => hplaces
  | _ => trivial

end Engine.Command

namespace Memory

/-- Every change in which an allowed draft is stored keeps the property, which may speak of the
number of pools that have been created. -/
def KeptByChanges (allowed : Memory → PoolDraft → Prop) (P : Nat → Memory → Prop) : Prop :=
  ∀ m n count created, m.Change allowed count n → P created m → P (created + count) n

namespace KeptByChanges

private theorem of_untouched (s t : Session) (ht : Untouched s t) (h : P s.created s.memory) :
    P t.created t.memory := by
  rw [ht.created, ht.memory]
  exact h

private theorem of_created {policy : Engine.OverlapPolicy} {draft : PoolDraft} {s t : Session}
    {pool : Pool} (hP : KeptByChanges allowed P) (hallowed : ∀ m, m.Places draft → allowed m draft)
    (hcreated : Engine.Created policy draft s pool t) (h : P s.created s.memory) :
    P t.created t.memory := by
  rw [hcreated.memory, hcreated.created]
  exact hP _ _ _ _ (.stored s.now hcreated.accepts (hallowed _ hcreated.passes.places)) h

private theorem createDraft (hP : KeptByChanges allowed P) (policy : Engine.OverlapPolicy)
    {draft : PoolDraft} (hallowed : ∀ m, m.Places draft → allowed m draft) :
    Keeps (fun s => P s.created s.memory) (Engine.createDraft policy draft) :=
  (Engine.tidy_createDraft policy draft).keeps of_untouched fun _ _ _ hs hrun =>
    hP.of_created hallowed (Engine.created_of_createDraft hrun) hs

private theorem createPool (hP : KeptByChanges allowed P) (policy : Engine.OverlapPolicy)
    {request : PoolRequest} (hallowed : ∀ m draft, request.validate limits = .ok draft →
      m.Places draft → allowed m draft) :
    Keeps (fun s => P s.created s.memory) (Engine.createPool limits policy request) := by
  refine (Engine.tidy_createPool limits policy request).keeps of_untouched
    fun s t pool hs hrun => ?_
  obtain ⟨draft, u, hvalid, hrun⟩ := Action.perform_bind_eq_ok.mp hrun
  cases hdraft : request.validate limits with
  | error cause =>
    rw [Action.perform_valid_of_error hdraft] at hvalid
    cases hvalid
  | ok given =>
    rw [Action.perform_valid_of_ok hdraft] at hvalid
    cases hvalid
    have hkeeps := hP.createDraft policy (fun m hplaces => hallowed m draft hdraft hplaces) s hs
    rwa [hrun] at hkeeps

private theorem storeCreate (hP : KeptByChanges allowed P) {draft : PoolDraft}
    (hallowed : ∀ m, allowed m draft) :
    Keeps (fun s => P s.created s.memory) (Action.create draft) := by
  refine (Action.tidy_create draft).keeps of_untouched fun s t pool hs hrun => ?_
  by_cases hstores : s.Stores draft
  · have hcreate : Action.perform Session.store (Action.create draft) s = _ :=
      Session.create_of_stores hstores
    cases hrun.symm.trans hcreate
    exact hP _ _ _ _ (.stored s.now hstores.accepts (hallowed _)) hs
  · obtain ⟨refusal, herror⟩ := Session.create_of_not_stores hstores
    cases hrun.symm.trans herror

private theorem update (hP : KeptByChanges allowed P) (id : PoolId) (change : PoolUpdate) :
    Keeps (fun s => P s.created s.memory) (Action.update id change) := by
  refine (Action.tidy_update id change).keeps of_untouched fun s t pool hs hrun => ?_
  obtain ⟨old, hfind, rfl, rfl⟩ := Session.update_eq_ok hrun
  exact hP _ _ _ _ (.changed s.now change hfind) hs

private theorem runPlan (hP : KeptByChanges allowed P) (policy : Engine.OverlapPolicy)
    {request : Plan.Request} (hallowed : ∀ m steps step status kind parent,
      request.steps limits = .ok steps → step ∈ steps →
      m.Places (Engine.stepDraft request status kind parent step) →
      allowed m (Engine.stepDraft request status kind parent step)) :
    Keeps (fun s => P s.created s.memory) (Engine.runPlan limits policy request) := by
  refine (Engine.tidy_runPlan limits policy request).keeps of_untouched
    fun s t report hs hrun => ?_
  obtain ⟨steps, made, u, hvalid, -, hu, -, -, hrounds⟩ := Engine.rounds_of_runPlan hrun
  have hstages : ∀ {g g' : Engine.Stage}, Relation.ReflTransGen
      (Engine.Round policy request (Engine.planStatus request) steps) g g' →
      P g.session.created g.session.memory → P g'.session.created g'.session.memory := by
    intro g g' hrounds hg
    induction hrounds with
    | refl => exact hg
    | tail _ hround ih =>
      rcases hround.untouched_or_created with hsame | ⟨step, parent, _, hstep, _, hcreated⟩
      · exact of_untouched _ _ hsame ih
      · exact hP.of_created (fun m => hallowed m steps step _ _ _ (Plan.steps_eq_ok_iff.mpr hvalid)
          (List.mem_of_getElem? hstep)) hcreated ih
  exact hstages hrounds (of_untouched s u hu hs)

theorem command (hP : KeptByChanges allowed P) {command : Engine.Command}
    (hstores : command.Stores limits allowed) :
    Keeps (fun s => P s.created s.memory) (command.action limits) := by
  by_cases hread : command.IsRead
  · exact (Engine.Command.reads_action hread).keeps of_untouched
  · cases command with
    | create policy request => exact hP.createPool policy hstores
    | createDraft policy draft => exact hP.createDraft policy hstores
    | storeCreate draft => exact hP.storeCreate hstores
    | update id patch =>
      refine ((Engine.reads_valid _).keeps of_untouched).bind fun change => ?_
      split
      · exact (Engine.reads_getPool id).keeps of_untouched
      · exact hP.update id change
    | storeUpdate id change => exact hP.update id change
    | apply request => exact hP.runPlan .skip hstores
    | _ => exact (hread trivial).elim

/-- What changes keep as long as the counter does not run over is kept as long as the ids of a first
session last. -/
theorem meanwhile {Q : Memory → Prop} (s : Session)
    (hQ : ∀ m n count, m.Change allowed count n → m.nextId.toNat + count < 2 ^ 64 → Q m → Q n) :
    KeptByChanges allowed (s.Meanwhile Q) := by
  intro m n count created hchange h
  cases hchange with
  | stored now haccepts hallowed =>
    exact h.push fun hroom => hQ _ _ _ (.stored now haccepts hallowed) hroom
  | changed now change hfind =>
    exact h.same rfl (hQ _ _ _ (.changed now change hfind) m.nextId.toNat_lt)
  | accounts accounts => exact h.same rfl (hQ _ _ _ (.accounts accounts) m.nextId.toNat_lt)

end KeptByChanges
end Memory
end AddressPlan
