import Mathlib
import AddressPlan.Proofs.Engine.PlanGate
import AddressPlan.Proofs.Runs.Events
/-!
# The overlap rule over runs

A session whose pools comply with the overlap rule keeps to it, whatever is asked of it, as long
as creations go through one of the two gates: the look for overlaps at a single creation or the
check for conflicts before a plan.
-/
namespace AddressPlan
open AddressPlan.Action (Keeps)
open Engine (Command OverlapPolicy)
open Session (Untouched)
open AddressPlan.Action (perform)

variable {limits : Limits} {s t : Session}

def Event.Gated : Event → Prop
  | .command (.create policy _) => policy = .enforce
  | .command (.createDraft policy _) => policy = .enforce
  | .command (.storeCreate _) => False
  | .command (.apply request) => request.skipConflicts = false
  | .addPool _ => False
  | _ => True

/-- The stored pools comply with the overlap rule, and new ids are fresh. -/
structure Memory.Compliant (m : Memory) : Prop where
  idsBelow : m.IdsBelow
  pools : AddressPlan.Compliant m.pools.rows

theorem Memory.Compliant.change {m : Memory} {id : PoolId} {old : Pool} (h : m.Compliant)
    (now : Instant) (change : PoolUpdate) (hfind : m.pools.find? id = some old) :
    ({ m with pools := m.pools.insert { change.applyTo old with updatedAt := now } } :
      Memory).Compliant := by
  refine ⟨h.idsBelow.change now change hfind, ?_⟩
  obtain ⟨f, hrows, hsame⟩ := Memory.rows_change now change hfind
  change AddressPlan.Compliant (m.pools.insert _).rows
  rw [hrows]
  exact h.pools.map_of_fields (fun p hp => (hsame p hp).id) (fun p hp => (hsame p hp).cidr)
    (fun p hp => (hsame p hp).parent) m.pools.nodup

/-- A session has come from a first one and complies with the rule, as long as the ids of the first
one last. -/
def Session.StaysCompliant (first s : Session) : Prop :=
  first.Meanwhile Memory.Compliant s.created s.memory

namespace Session.StaysCompliant

variable {first : Session}

private theorem of_untouched (s t : Session) (ht : Untouched s t) (h : first.StaysCompliant s) :
    first.StaysCompliant t := by
  rw [StaysCompliant, ht.created, ht.memory]
  exact h

private theorem createDraft (draft : PoolDraft) :
    Keeps first.StaysCompliant (Engine.createDraft .enforce draft) := by
  refine (Engine.tidy_createDraft .enforce draft).keeps of_untouched fun s t pool hs hrun => ?_
  have hcreated := Engine.created_of_createDraft hrun
  rw [StaysCompliant, hcreated.created, hcreated.memory]
  refine Meanwhile.push hs fun hroom hm => ⟨hm.idsBelow.push hroom, ?_⟩
  exact Engine.compliant_push s.now hm.idsBelow hm.pools (hcreated.passes.unrelated rfl)

private theorem update (id : PoolId) (change : PoolUpdate) :
    Keeps first.StaysCompliant (Action.update id change) := by
  refine (Action.tidy_update id change).keeps of_untouched fun s t pool hs hrun => ?_
  obtain ⟨old, hfind, rfl, rfl⟩ := Session.update_eq_ok hrun
  exact Meanwhile.same hs rfl fun hm => hm.change s.now change hfind

private theorem applyPlan {request : Plan.Request} (hgated : request.skipConflicts = false) :
    Keeps first.StaysCompliant (Engine.applyPlan limits request) := by
  refine (Engine.tidy_runPlan limits .skip request).keeps of_untouched fun s t report hs hrun => ?_
  obtain ⟨steps, made, u, hvalid, hclear, hu, -, -, hrounds⟩ := Engine.rounds_of_runPlan hrun
  have hstart : Engine.Progress request (Engine.planStatus request) steps s
      ⟨[], .empty, u⟩ := .init hu
  have hend := hstart.rounds hvalid.ordered hrounds
  have hcounted : t.created = s.created + made.reduceOption.length := hend.counted
  intro hlast
  obtain ⟨hcount, hm⟩ := hs (hlast.of_le (by omega))
  have hroom : s.memory.nextId.toNat + made.reduceOption.length < 2 ^ 64 := by
    rw [IdsLast] at hlast
    omega
  have hnext : t.memory.nextId.toNat = s.memory.nextId.toNat + made.reduceOption.length := by
    rw [← toNat_add_ofNat hroom, ← hend.nextId]
  refine ⟨by omega, hend.idsBelow hm.idsBelow hroom, ?_⟩
  have hpools := hm.pools
  rw [← hu.memory] at hpools
  exact hstart.compliant_rounds hm.idsBelow hvalid (hclear hgated) hpools hrounds hroom

private theorem command {command : Command} (hgated : (Event.command command).Gated) :
    Keeps first.StaysCompliant (command.action limits) := by
  have hvalid : ∀ {α : Type} (result : Except Invalid α),
      Keeps first.StaysCompliant (Action.valid result) :=
    fun result => (Engine.reads_valid result).keeps of_untouched
  by_cases hread : command.IsRead
  · exact (Command.reads_action hread).keeps of_untouched
  · cases command with
    | create policy request =>
      obtain rfl : policy = .enforce := hgated
      exact (hvalid _).bind fun draft => createDraft draft
    | createDraft policy draft =>
      obtain rfl : policy = .enforce := hgated
      exact createDraft draft
    | storeCreate draft => exact hgated.elim
    | update id patch =>
      refine (hvalid _).bind fun change => ?_
      split
      · exact (Engine.reads_getPool id).keeps of_untouched
      · exact update id change
    | storeUpdate id change => exact update id change
    | apply request => exact applyPlan hgated
    | _ => exact (hread trivial).elim

theorem occur (s : Session) (event : Event) (hgated : event.Gated) (h : first.StaysCompliant s) :
    first.StaysCompliant (s.occur limits event) := by
  cases event with
  | command c => exact command hgated s h
  | token token => exact h
  | clock now => exact h
  | addPool pool => exact hgated.elim
  | addAccount account => exact Meanwhile.same h rfl fun hm => ⟨hm.idsBelow, hm.pools⟩

end Session.StaysCompliant

end AddressPlan
