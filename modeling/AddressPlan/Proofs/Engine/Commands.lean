import AddressPlan.Engine.Searches
import AddressPlan.Proofs.Engine.Rounds
/-!
# Commands

Everything that a caller can ask of the engine or of the store behind it. A command that reads
leaves a session untouched whatever it answers, and any command does so when it is refused.
-/
namespace AddressPlan.Engine
open AddressPlan.Action (Reads Tidy)

inductive Command
  | list
  | get (id : PoolId)
  | ancestors (id : PoolId)
  | subnets (id : PoolId) (len : Nat) (offset limit : UInt64)
  | audit
  | check (request : Plan.CheckRequest)
  | search (params : Search.Params)
  | accounts
  | storeGet (id : PoolId)
  | create (policy : OverlapPolicy) (request : PoolRequest)
  | createDraft (policy : OverlapPolicy) (draft : PoolDraft)
  | storeCreate (draft : PoolDraft)
  | update (id : PoolId) (patch : PoolPatch)
  | storeUpdate (id : PoolId) (change : PoolUpdate)
  | apply (request : Plan.Request)

namespace Command

def Answer : Command → Type
  | list => List Pool
  | get _ => Pool
  | ancestors _ => List Pool
  | subnets _ _ _ _ => Pool × Prefix.Window
  | audit => List Violation
  | check _ => Plan.CheckResponse
  | search _ => Search.Response
  | accounts => List Account
  | storeGet _ => Option Pool
  | create _ _ => Pool
  | createDraft _ _ => Pool
  | storeCreate _ => Pool
  | update _ _ => Pool
  | storeUpdate _ _ => Pool
  | apply _ => Plan.Report

def action (limits : Limits) : (command : Command) → Action command.Answer
  | list => listPools
  | get id => getPool id
  | ancestors id => Engine.ancestors id
  | subnets id len offset limit => Engine.subnets id len offset limit
  | audit => auditPools
  | check request => checkPlan limits request
  | search params => Engine.search limits params
  | accounts => listAccounts
  | storeGet id => Action.get id
  | create policy request => createPool limits policy request
  | createDraft policy draft => Engine.createDraft policy draft
  | storeCreate draft => Action.create draft
  | update id patch => updatePool id patch
  | storeUpdate id change => Action.update id change
  | apply request => applyPlan limits request

def IsRead : Command → Prop
  | list | get _ | ancestors _ | subnets _ _ _ _ | audit | check _ | search _ | accounts
  | storeGet _ => True
  | create _ _ | createDraft _ _ | storeCreate _ | update _ _ | storeUpdate _ _ | apply _ => False

end Command

variable {limits : Limits} {id : PoolId}

theorem reads_valid {α : Type} (result : Except Invalid α) : Reads (Action.valid result) :=
  Action.reads_ofExcept _

theorem reads_getPool (id : PoolId) : Reads (getPool id) := by
  refine (Action.reads_get id).bind fun found => ?_
  cases found with
  | none => exact Action.reads_throw _
  | some pool => exact Action.reads_pure pool

private theorem reads_ancestorsFrom (fuel : Nat) (visited : List PoolId) (next : Option PoolId) :
    Reads (ancestorsFrom fuel visited next) := by
  induction fuel generalizing visited next with
  | zero => exact Action.reads_pure []
  | succ fuel ih =>
    cases next with
    | none => exact Action.reads_pure []
    | some id =>
      unfold ancestorsFrom
      split
      · exact Action.reads_pure []
      · refine (Action.reads_get id).bind fun found => ?_
        cases found with
        | none => exact Action.reads_pure []
        | some parent => exact (ih _ _).bind fun above => Action.reads_pure (parent :: above)

theorem reads_ancestors (id : PoolId) : Reads (ancestors id) :=
  (reads_getPool id).bind fun _ => reads_ancestorsFrom _ _ _

theorem reads_subnets (id : PoolId) (len : Nat) (offset limit : UInt64) :
    Reads (subnets id len offset limit) :=
  (reads_getPool id).bind fun _ => (reads_valid _).bind fun _ => Action.reads_pure _

theorem reads_auditPools : Reads auditPools :=
  Action.reads_list.bind fun pools => Action.reads_pure (audit pools)

theorem reads_checkPlan (limits : Limits) (request : Plan.CheckRequest) :
    Reads (checkPlan limits request) :=
  (reads_valid _).bind fun _ => Action.reads_list.bind fun _ => Action.reads_pure _

theorem reads_search (limits : Limits) (params : Search.Params) :
    Reads (search limits params) := by
  refine (reads_valid _).bind fun query => ?_
  have haccounts : ∀ pools, Reads (if query.wantsAccounts = true then
      Action.accounts >>= fun accounts => pure (Search.respond pools accounts query)
    else pure [] >>= fun accounts => pure (Search.respond pools accounts query)) := by
    intro pools
    split
    · exact Action.reads_accounts.bind fun _ => Action.reads_pure _
    · exact (Action.reads_pure []).bind fun _ => Action.reads_pure _
  dsimp only
  split
  · exact Action.reads_list.bind haccounts
  · exact (Action.reads_pure []).bind haccounts

theorem Command.reads_action {command : Command} (h : command.IsRead) :
    Reads (command.action limits) := by
  cases command with
  | list => exact Action.reads_list
  | get id => exact reads_getPool id
  | ancestors id => exact reads_ancestors id
  | subnets id len offset limit => exact reads_subnets id len offset limit
  | audit => exact reads_auditPools
  | check request => exact reads_checkPlan limits request
  | search params => exact reads_search limits params
  | accounts => exact Action.reads_accounts
  | storeGet id => exact Action.reads_get id
  | create | createDraft | storeCreate | update | storeUpdate | apply => exact h.elim

theorem tidy_createPool (limits : Limits) (policy : OverlapPolicy) (request : PoolRequest) :
    Tidy (createPool limits policy request) :=
  (reads_valid _).bind_tidy fun draft => tidy_createDraft policy draft

theorem tidy_updatePool (id : PoolId) (patch : PoolPatch) : Tidy (updatePool id patch) := by
  refine (reads_valid _).bind_tidy fun change => ?_
  split
  · exact (reads_getPool id).tidy
  · exact Action.tidy_update id change

theorem Command.tidy_action (command : Command) : Tidy (command.action limits) := by
  by_cases hread : command.IsRead
  · exact (Command.reads_action hread).tidy
  · cases command with
    | create policy request => exact tidy_createPool limits policy request
    | createDraft policy draft => exact tidy_createDraft policy draft
    | storeCreate draft => exact Action.tidy_create draft
    | update id patch => exact tidy_updatePool id patch
    | storeUpdate id change => exact Action.tidy_update id change
    | apply request => exact tidy_runPlan limits .skip request
    | _ => exact (hread trivial).elim

end AddressPlan.Engine
