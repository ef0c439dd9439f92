import AddressPlan.Http.Service
import AddressPlan.Proofs.Engine.Commands
/-!
# Requests that leave no trace

A request that is answered with an error, or that only asks, leaves the store as it is, and so
does every request under a token that has fired. The status of a response tells the two ends of an
operation apart.
-/
namespace AddressPlan.Http
open AddressPlan.Action (Reads Tidy perform)
open Engine (Command OverlapPolicy)
open Json (Value)
open Session (Untouched store)

variable {limits : Limits} {s t : Session} {request : Request}

def Operation.IsRead : Operation → Prop
  | .createPool | .updatePool _ | .applyPlan => False
  | _ => True

section Responses

variable {α : Type} {status : Nat} {write : α → Value} {action : Action α}

private theorem run_respondWith : (respondWith status write action).run store s =
    match action.perform store s with
    | (.ok a, t) => (⟨status, .json (write a)⟩, t)
    | (.error refusal, t) => (.ofRefusal refusal, t) := by
  refine (Script.run_bind store _ _ s).trans ?_
  cases hrun : action.perform store s with
  | mk answer t =>
    have hscript : action.run.run store s = (answer, t) := hrun
    rw [hscript]
    cases answer <;> rfl

private theorem untouched_respondWith (h : Reads action) :
    Untouched s ((respondWith status write action).run store s).2 := by
  have hs := h s
  rw [run_respondWith]
  cases hrun : action.perform store s with
  | mk answer t =>
    rw [hrun] at hs
    cases answer <;> exact hs

private theorem untouched_respondWith_of_error (h : Tidy action) (hstatus : status < 400)
    (herror : 400 ≤ ((respondWith status write action).run store s).1.status) :
    Untouched s ((respondWith status write action).run store s).2 := by
  rw [run_respondWith] at herror ⊢
  cases hrun : action.perform store s with
  | mk answer t =>
    rw [hrun] at herror
    cases answer with
    | ok a => exact absurd herror (Nat.not_le.mpr hstatus)
    | error refusal => exact h s t refusal hrun

end Responses

private theorem untouched_run_of_isRead {operation : Operation} (h : operation.IsRead) :
    Untouched s ((run limits request operation).run store s).2 := by
  cases operation with
  | health => exact .refl s
  | listPools => exact untouched_respondWith Action.reads_list
  | getPool id => exact untouched_respondWith (Engine.reads_getPool id)
  | subnets id =>
    refine untouched_respondWith ((Engine.reads_valid _).bind fun params => ?_)
    exact (Engine.reads_subnets id _ _ _).bind fun _ => Action.reads_pure _
  | ancestors id => exact untouched_respondWith (Engine.reads_ancestors id)
  | audit => exact untouched_respondWith Engine.reads_auditPools
  | checkPlan =>
    exact untouched_respondWith
      ((Engine.reads_valid _).bind fun plan => Engine.reads_checkPlan limits plan)
  | search =>
    exact untouched_respondWith
      ((Engine.reads_valid _).bind fun params => Engine.reads_search limits params)
  | createPool | updatePool | applyPlan => exact h.elim

private theorem untouched_run_of_error {operation : Operation}
    (h : 400 ≤ ((run limits request operation).run store s).1.status) :
    Untouched s ((run limits request operation).run store s).2 := by
  by_cases hread : operation.IsRead
  · exact untouched_run_of_isRead hread
  · cases operation with
    | createPool =>
      refine untouched_respondWith_of_error ?_ (by decide) h
      exact (Engine.reads_valid _).bind_tidy fun spec => Engine.tidy_createPool limits .enforce spec
    | updatePool id =>
      refine untouched_respondWith_of_error ?_ (by decide) h
      exact (Engine.reads_valid _).bind_tidy fun patch => Engine.tidy_updatePool id patch
    | applyPlan =>
      refine untouched_respondWith_of_error ?_ (by decide) h
      exact (Engine.reads_valid _).bind_tidy fun plan => Engine.tidy_runPlan limits .skip plan
    | _ => exact (hread trivial).elim

private theorem run_respond_of_ok {operation : Operation} (h : request.operation = .ok operation) :
    (respond limits request).run store s =
      let (response, t) := (run limits request operation).run store s
      (if request.method = .head then .empty response.status else response, t) := by
  unfold respond
  rw [h]
  exact Script.run_bind store (run limits request operation) _ s

private theorem run_respond_of_error {stray : Stray} (h : request.operation = .error stray) :
    (respond limits request).run store s =
      (if request.method = .head then .empty (Response.ofStray stray).status else .ofStray stray,
        s) := by
  unfold respond
  rw [h]
  rfl

private theorem untouched_respond_of_isRead
    (h : ∀ operation, request.operation = .ok operation → operation.IsRead) :
    Untouched s ((respond limits request).run store s).2 := by
  cases hoperation : request.operation with
  | error stray =>
    rw [run_respond_of_error hoperation]
    exact .refl s
  | ok operation =>
    rw [run_respond_of_ok hoperation]
    exact untouched_run_of_isRead (h operation hoperation)

private theorem untouched_respond_of_error
    (h : 400 ≤ ((respond limits request).run store s).1.status) :
    Untouched s ((respond limits request).run store s).2 := by
  cases hoperation : request.operation with
  | error stray =>
    rw [run_respond_of_error hoperation]
    exact .refl s
  | ok operation =>
    have herror : 400 ≤ ((run limits request operation).run store s).1.status := by
      rw [run_respond_of_ok hoperation] at h
      dsimp only at h
      split at h
      · exact h
      · exact h
    rw [run_respond_of_ok hoperation]
    exact untouched_run_of_error herror

private theorem isRead_of_map {α : Type} {f : α → Operation} {x : Except Stray α}
    {operation : Operation} (hf : ∀ a, (f a).IsRead) (h : f <$> x = .ok operation) :
    operation.IsRead := by
  cases x with
  | error stray => cases h
  | ok a =>
    cases h
    exact hf a

private theorem Place.isRead_of_get {place : Place} {operation : Operation}
    (h : place.operation .get = .ok operation) : operation.IsRead := by
  cases place with
  | health | pools | audit | search =>
    cases h
    trivial
  | pool id => exact isRead_of_map (f := .getPool) (fun _ => trivial) h
  | subnets id => exact isRead_of_map (f := .subnets) (fun _ => trivial) h
  | ancestors id => exact isRead_of_map (f := .ancestors) (fun _ => trivial) h
  | check | apply => cases h

private theorem Place.operation_head (place : Place) :
    place.operation .head = place.operation .get := by
  cases place <;> rfl

private theorem isRead_of_get {operation : Operation}
    (hmethod : request.method = .get ∨ request.method = .head)
    (h : request.operation = .ok operation) : operation.IsRead := by
  unfold Request.operation at h
  split at h
  · next place _ =>
    rcases hmethod with hget | hhead
    · rw [hget] at h
      exact Place.isRead_of_get h
    · rw [hhead, Place.operation_head] at h
      exact Place.isRead_of_get h
  · cases h

private theorem isRead_of_check {operation : Operation}
    (hpath : request.target.path = "/api/v1/schema/check".toList)
    (h : request.operation = .ok operation) : operation.IsRead := by
  have hplace : Place.ofPath? "/api/v1/schema/check".toList = some .check := by decide +kernel
  unfold Request.operation at h
  rw [hpath, hplace] at h
  change Place.check.operation request.method = .ok operation at h
  cases hmethod : request.method with
  | post =>
    rw [hmethod] at h
    cases h
    trivial
  | get | head | patch | other =>
    rw [hmethod] at h
    cases h

/-- What leaves the memory of a session as it is: its pools, its accounts and its id counter. -/
structure LeavesNoTrace (limits : Limits) (s : Session) : Prop where
  refused : ∀ (command : Command) (refusal : Refusal) (t : Session),
    (command.action limits).perform store s = (.error refusal, t) → t.memory = s.memory
  asked : ∀ command : Command, command.IsRead →
    ((command.action limits).perform store s).2.memory = s.memory
  /-- A request that is answered with the status of an error. -/
  failed : ∀ request : Request, 400 ≤ ((respond limits request).run store s).1.status →
    ((respond limits request).run store s).2.memory = s.memory
  got : ∀ request : Request, request.method = .get ∨ request.method = .head →
    ((respond limits request).run store s).2.memory = s.memory
  checked : ∀ request : Request, request.target.path = "/api/v1/schema/check".toList →
    ((respond limits request).run store s).2.memory = s.memory
  fired : s.token = .fired →
    (∀ command : Command, ((command.action limits).perform store s).2.memory = s.memory) ∧
    ∀ request : Request, ((respond limits request).run store s).2.memory = s.memory
  /-- A valid plan that skips the check for conflicts, which under such a token is answered all the
  same. -/
  planned : s.token = .fired → ∀ (plan : Plan.Request) (steps : List Plan.Step),
    plan.skipConflicts = true → plan.steps limits = .ok steps →
      ∃ report, (Engine.applyPlan limits plan).perform store s = (.ok report, s) ∧
        report.created = 0

/-- In every state of the memory, under every token and with every fault, errors and lookups leave
the memory as it is. -/
theorem leavesNoTrace (limits : Limits) (s : Session) : LeavesNoTrace limits s where
  refused command refusal t h := (command.tidy_action s t refusal h).memory
  asked command h := (Command.reads_action h s).memory
  failed request h := (untouched_respond_of_error h).memory
  got request h := (untouched_respond_of_isRead fun _ => isRead_of_get h).memory
  checked request h := (untouched_respond_of_isRead fun _ => isRead_of_check h).memory
  fired h := by
    refine ⟨fun command => ?_, fun request => ?_⟩
    · exact congrArg Session.memory (Session.run_of_fired (command.action limits).run h)
    · exact congrArg Session.memory (Session.run_of_fired (respond limits request) h)
  planned h plan steps hungated hsteps := Engine.runPlan_of_fired h hungated hsteps

end AddressPlan.Http
