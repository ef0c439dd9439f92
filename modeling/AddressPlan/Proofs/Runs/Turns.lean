import AddressPlan.Proofs.Store.Visits
/-!
# Callers that take turns

The scripts of several callers run over one memory. A storage call is atomic, so callers that run at
the same time take turns: a turn is the next call of one of them. Each turn is a visit to the memory
under the token of its caller, and what visits keep, every interleaving keeps.
-/
namespace AddressPlan

variable {α σ : Type}

namespace Script

def step (store : Store σ) : Script α → σ → Script α × σ
  | done result, s => (done result, s)
  | list next, s => (store.list s).map next id
  | get poolId next, s => (store.get poolId s).map next id
  | create draft next, s => (store.create draft s).map next id
  | update poolId change next, s => (store.update poolId change s).map next id
  | accounts next, s => (store.accounts s).map next id

/-- To run a script is to make its calls one after the other. -/
theorem run_step (store : Store σ) (script : Script α) (s : σ) :
    (script.step store s).1.run store (script.step store s).2 = script.run store s := by
  cases script <;> rfl

def call? : Script α → Option StoreCall
  | done _ => none
  | list _ => some .list
  | get id _ => some (.get id)
  | create draft _ => some (.create draft)
  | update id change _ => some (.update id change)
  | accounts _ => some .accounts

private def resume : Script α → StoreAnswer → Script α
  | list next, .pools answer => next answer
  | get _ next, .found answer => next answer
  | create _ next, .created answer => next answer
  | update _ _ next, .changed answer => next answer
  | accounts next, .accounts answer => next answer
  | script, _ => script

private theorem step_of_call? {script : Script α} {call : StoreCall} (h : script.call? = some call)
    (s : Session) : script.step Session.store s =
      (script.resume (call.perform s).1, (call.perform s).2) := by
  cases script <;> cases h <;> rfl

private theorem step_of_call?_eq_none {script : Script α} (h : script.call? = none) (s : Session) :
    script.step Session.store s = (script, s) := by
  cases script <;> cases h
  rfl

end Script

structure Caller (α : Type) where
  token : Token
  script : Script α

/-- Callers at work on one memory. -/
structure Crowd (α : Type) where
  memory : Memory
  callers : List (Caller α)

/-- Whose turn it is, and when it comes. -/
structure Turn where
  caller : Nat
  now : Instant

namespace Crowd

def turn (crowd : Crowd α) (t : Turn) : Crowd α :=
  match crowd.callers[t.caller]? with
  | none => crowd
  | some caller =>
    let (script, s) := caller.script.step Session.store (crowd.memory.session caller.token t.now)
    ⟨s.memory, crowd.callers.set t.caller ⟨s.token, script⟩⟩

def after (crowd : Crowd α) (schedule : List Turn) : Crowd α :=
  schedule.foldl turn crowd

theorem after_append (crowd : Crowd α) (schedule later : List Turn) :
    crowd.after (schedule ++ later) = (crowd.after schedule).after later :=
  List.foldl_append

variable {crowd : Crowd α} {t : Turn} {caller : Caller α}

theorem turn_of_caller (h : crowd.callers[t.caller]? = some caller) : crowd.turn t =
    let next := caller.script.step Session.store (crowd.memory.session caller.token t.now)
    ⟨next.2.memory, crowd.callers.set t.caller ⟨next.2.token, next.1⟩⟩ := by
  simp only [turn, h]

theorem turn_of_no_caller (h : crowd.callers[t.caller]? = none) : crowd.turn t = crowd := by
  simp only [turn, h]

/-- The visit that a turn is, unless it comes to a caller that has nothing more to ask. -/
def visit? (crowd : Crowd α) (t : Turn) : Option Visit :=
  crowd.callers[t.caller]?.bind fun caller =>
    caller.script.call?.map fun call => ⟨caller.token, t.now, call⟩

def visits : Crowd α → List Turn → List Visit
  | _, [] => []
  | crowd, t :: schedule => (crowd.visit? t).toList ++ (crowd.turn t).visits schedule

private theorem turn_of_visit? {call : StoreCall} (h : crowd.callers[t.caller]? = some caller)
    (hcall : caller.script.call? = some call) :
    let visit : Visit := ⟨caller.token, t.now, call⟩
    crowd.visit? t = some visit ∧ (crowd.turn t).memory = visit.leaves crowd.memory ∧
      ∃ token, (crowd.turn t).callers = crowd.callers.set t.caller
        ⟨token, caller.script.resume (visit.answer crowd.memory)⟩ := by
  rw [turn_of_caller h, Script.step_of_call? hcall]
  refine ⟨?_, rfl, _, rfl⟩
  simp only [visit?, h, Option.bind_some, hcall, Option.map_some]

private theorem memory_turn (crowd : Crowd α) (t : Turn) :
    (crowd.turn t).memory = crowd.memory.after (crowd.visit? t).toList := by
  cases hcaller : crowd.callers[t.caller]? with
  | none =>
    rw [turn_of_no_caller hcaller, visit?, hcaller]
    rfl
  | some caller =>
    cases hcall : caller.script.call? with
    | none =>
      rw [turn_of_caller hcaller, Script.step_of_call?_eq_none hcall, visit?, hcaller,
        Option.bind_some, hcall]
      rfl
    | some call =>
      obtain ⟨hvisit, hmemory, -⟩ := turn_of_visit? hcaller hcall
      rw [hmemory, hvisit]
      rfl

private theorem memory_after (crowd : Crowd α) (schedule : List Turn) :
    (crowd.after schedule).memory = crowd.memory.after (crowd.visits schedule) := by
  induction schedule generalizing crowd with
  | nil => rfl
  | cons t schedule ih =>
    rw [visits, Memory.after_append, ← memory_turn]
    exact ih (crowd.turn t)

private theorem visits_append (crowd : Crowd α) (schedule later : List Turn) :
    crowd.visits (schedule ++ later) =
      crowd.visits schedule ++ (crowd.after schedule).visits later := by
  induction schedule generalizing crowd with
  | nil => rfl
  | cons t schedule ih =>
    rw [List.cons_append, visits, visits, ih, List.append_assoc]
    rfl

/-- There are ids above the counter for all that the callers create on a schedule. -/
def IdsLast (crowd : Crowd α) (schedule : List Turn) : Prop :=
  crowd.memory.IdsLast (crowd.visits schedule)

theorem IdsLast.of_append {schedule later : List Turn} (h : crowd.IdsLast (schedule ++ later)) :
    crowd.IdsLast schedule := by
  rw [IdsLast, visits_append] at h
  exact h.of_append.1

theorem idsBelow_after {schedule : List Turn} (hids : crowd.memory.IdsBelow)
    (hlast : crowd.IdsLast schedule) : (crowd.after schedule).memory.IdsBelow := by
  rw [memory_after]
  exact hids.after hlast

end Crowd

namespace Memory

end Memory
end AddressPlan
