import Mathlib.Data.List.Infix
import Mathlib.Data.Nat.Order.Lemmas
import AddressPlan.Proofs.Engine.Creation
import AddressPlan.Proofs.Runs.Turns
/-!
# Creations that race

A creation looks for overlaps in one storage call and stores its pool in a later one, and nothing
holds the store in between. Creations that run at the same time may so break the overlap rule, but
only in one way: of the two pools of a violation, the later one was stored by a caller that had
listed the pools before the other caller stored the earlier one.
-/
namespace AddressPlan
open Engine (createPool createDraft checkOverlaps checkParent)

section Scripts

variable {limits : Limits} {request : PoolRequest} {draft : PoolDraft} {id : PoolId}

def Engine.checkAndCreate (draft : PoolDraft) : Action Pool :=
  checkOverlaps draft >>= fun _ => Action.create draft

private theorem run_createPool : (createPool limits .enforce request).run =
    match request.validate limits with
    | .error cause => .done (.error (.invalid cause))
    | .ok draft => (createDraft .enforce draft).run := by
  unfold createPool Action.valid Action.ofExcept
  cases request.validate limits <;> rfl

private theorem createDraft_of_root (h : draft.parent = none) :
    createDraft .enforce draft = Engine.checkAndCreate draft := by
  unfold createDraft checkParent
  rw [h]
  rfl

private theorem run_createDraft_of_parent (h : draft.parent = some id) :
    (createDraft .enforce draft).run = .get id fun
      | .ok (some parent) => match validChild none parent.cidr draft.cidr with
        | .ok () => (Engine.checkAndCreate draft).run
        | .error refusal => .done (.error refusal)
      | .ok none => .done (.error (.absent (.parent id)))
      | .error refusal => .done (.error refusal) := by
  unfold createDraft checkParent
  rw [h]
  refine congrArg (Script.get id) (funext fun answer => ?_)
  rcases answer with refusal | _ | parent
  · rfl
  · rfl
  · change Script.bind (Script.bind (.done (validChild none parent.cidr draft.cidr)) _) _ = _
    cases hvalid : validChild none parent.cidr draft.cidr <;> simp only [hvalid] <;> rfl

private theorem run_checkAndCreate : (Engine.checkAndCreate draft).run = .list fun
    | .ok pools => if (unrelatedOverlaps pools draft).isEmpty then (Action.create draft).run
      else .done (.error (.clash (.blocks draft.cidr (unrelatedOverlaps pools draft))))
    | .error refusal => .done (.error refusal) := by
  refine congrArg Script.list (funext fun answer => ?_)
  rcases answer with refusal | pools
  · rfl
  · change Script.bind (ExceptT.run (if (unrelatedOverlaps pools draft).isEmpty then
      (pure () : Action Unit) else throw (.clash (.blocks draft.cidr _)))) _ = _
    dsimp only
    split <;> rfl

private theorem step_createDraft_of_parent (m : Memory) (now : Instant)
    (h : draft.parent = some id) :
    ∃ script, (createDraft .enforce draft).run.step Session.store (m.session .live now) =
        (script, m.session .live now) ∧
      (script = (Engine.checkAndCreate draft).run ∨
        ∃ refusal, script = .done (.error refusal)) := by
  have hget : Session.store.get id (m.session .live now) = _ :=
    Session.get_of_admits (Session.admits_of_live rfl rfl)
  rw [run_createDraft_of_parent h, Script.step, hget]
  refine ⟨_, rfl, ?_⟩
  dsimp only [Memory.session]
  cases m.pools.find? id with
  | none => exact .inr ⟨_, rfl⟩
  | some parent =>
    dsimp only
    cases validChild none parent.cidr draft.cidr with
    | error refusal => exact .inr ⟨_, rfl⟩
    | ok _ => exact .inl rfl

private theorem step_checkAndCreate (draft : PoolDraft) (m : Memory) (now : Instant) :
    ∃ script, (Engine.checkAndCreate draft).run.step Session.store (m.session .live now) =
        (script, m.session .live now) ∧
      (unrelatedOverlaps m.pools.rows draft = [] ∧ script = (Action.create draft).run ∨
        ∃ refusal, script = .done (.error refusal)) := by
  have hlist : Session.store.list (m.session .live now) = _ :=
    Session.list_of_admits (Session.admits_of_live rfl rfl)
  rw [run_checkAndCreate, Script.step, hlist]
  refine ⟨_, rfl, ?_⟩
  dsimp only [Memory.session]
  by_cases hclear : (unrelatedOverlaps m.pools.rows draft).isEmpty = true
  · rw [if_pos hclear]
    exact .inl ⟨List.isEmpty_iff.mp hclear, rfl⟩
  · rw [if_neg hclear]
    exact .inr ⟨_, rfl⟩

private theorem step_create (draft : PoolDraft) (m : Memory) (now : Instant) :
    ∃ answer s, (Action.create draft).run.step Session.store (m.session .live now) =
        (.done answer, s) ∧ s.token = .live ∧
      (s.memory = m ∨ m.Accepts draft ∧ s.memory = m.push now draft) := by
  have hrun : (Action.create draft).run.step Session.store (m.session .live now) =
      (Session.create draft (m.session .live now)).map Script.done id := rfl
  by_cases hstores : (m.session .live now).Stores draft
  · rw [hrun, Session.create_of_stores hstores]
    exact ⟨_, _, rfl, rfl, .inr ⟨hstores.accepts, rfl⟩⟩
  · obtain ⟨refusal, hrefused⟩ := Session.create_of_not_stores hstores
    rw [hrun, hrefused]
    exact ⟨_, _, rfl, rfl, .inl rfl⟩

end Scripts

namespace Crowd

section Records

variable {α : Type}

def Lists (start : Crowd α) (schedule : List Turn) (n i : Nat) : Prop :=
  ∃ t caller next, schedule[n]? = some t ∧ t.caller = i ∧
    (start.after (schedule.take n)).callers[i]? = some caller ∧ caller.script = .list next

def Stores (start : Crowd α) (schedule : List Turn) (n i : Nat) (id : PoolId) : Prop :=
  ∃ t, schedule[n]? = some t ∧ t.caller = i ∧
    id ∉ (start.after (schedule.take n)).memory.pools.rows.map Pool.id ∧
    id ∈ (start.after (schedule.take (n + 1))).memory.pools.rows.map Pool.id

/-- One caller listed the pools, another one stored the first pool after that, and then the first
caller stored the other pool. -/
def Raced (start : Crowd α) (schedule : List Turn) (id otherId : PoolId) : Prop :=
  ∃ i j a b c, i ≠ j ∧ a < b ∧ b < c ∧ start.Lists schedule a j ∧
    start.Stores schedule b i id ∧ start.Stores schedule c j otherId

variable {start : Crowd α} {schedule : List Turn} {t : Turn} {n i : Nat} {id otherId : PoolId}

private theorem after_take_succ (h : schedule[n]? = some t) :
    start.after (schedule.take (n + 1)) = (start.after (schedule.take n)).turn t := by
  rw [List.take_add_one, h, after_append]
  rfl

private theorem Lists.snoc (h : start.Lists schedule n i) (t : Turn) :
    start.Lists (schedule ++ [t]) n i := by
  obtain ⟨u, caller, next, hturn, hcaller, hat, hscript⟩ := h
  have hn : n < schedule.length := (List.getElem?_eq_some_iff.mp hturn).1
  refine ⟨u, caller, next, ?_, hcaller, ?_, hscript⟩
  · rwa [List.getElem?_append_left hn]
  · rwa [List.take_append_of_le_length hn.le]

private theorem Stores.snoc (h : start.Stores schedule n i id) (t : Turn) :
    start.Stores (schedule ++ [t]) n i id := by
  obtain ⟨u, hturn, hcaller, hbefore, hafter⟩ := h
  have hn : n < schedule.length := (List.getElem?_eq_some_iff.mp hturn).1
  refine ⟨u, ?_, hcaller, ?_, ?_⟩
  · rwa [List.getElem?_append_left hn]
  · rwa [List.take_append_of_le_length hn.le]
  · rwa [List.take_append_of_le_length hn]

private theorem Raced.snoc (h : start.Raced schedule id otherId) (t : Turn) :
    start.Raced (schedule ++ [t]) id otherId := by
  obtain ⟨i, j, a, b, c, hij, hab, hbc, hlists, hstores, hstores'⟩ := h
  exact ⟨i, j, a, b, c, hij, hab, hbc, hlists.snoc t, hstores.snoc t, hstores'.snoc t⟩

private theorem Lists.memory_eq (h : start.Lists schedule n i) :
    (start.after (schedule.take (n + 1))).memory = (start.after (schedule.take n)).memory := by
  obtain ⟨t, caller, next, hturn, rfl, hat, hscript⟩ := h
  rw [after_take_succ hturn, turn_of_caller hat, hscript]
  exact (Session.untouched_list (s := Memory.session _ caller.token t.now)).memory

private theorem exists_stores (hend : id ∈ (start.after schedule).memory.pools.rows.map Pool.id)
    (hstart : id ∉ (start.after (schedule.take n)).memory.pools.rows.map Pool.id) :
    ∃ b i, n ≤ b ∧ b < schedule.length ∧ start.Stores schedule b i id := by
  have hreach : ∃ k, id ∈
      (start.after (schedule.take (n + k))).memory.pools.rows.map Pool.id := by
    refine ⟨schedule.length, ?_⟩
    rwa [List.take_of_length_le (Nat.le_add_left _ _)]
  obtain ⟨k, hbefore, hafter⟩ := Nat.exists_not_and_succ_of_not_zero_of_exists hstart hreach
  have hlt : n + k < schedule.length := by
    by_contra hle
    rw [List.take_of_length_le (by omega)] at hbefore
    exact hbefore hend
  exact ⟨n + k, _, Nat.le_add_right _ _, hlt, _, List.getElem?_eq_getElem hlt, rfl, hbefore, hafter⟩

end Records

section Creations

variable {start : Crowd (Except Refusal Pool)} {schedule : List Turn} {t : Turn} {j n : Nat}
  {draft : PoolDraft} {caller : Caller (Except Refusal Pool)}

/-- In the turn with this number the caller listed the pools, none of them stood against its draft,
and it has not had a turn since. -/
structure Cleared (start : Crowd (Except Refusal Pool)) (schedule : List Turn) (j n : Nat)
    (draft : PoolDraft) : Prop where
  lists : start.Lists schedule n j
  clear : unrelatedOverlaps (start.after (schedule.take n)).memory.pools.rows draft = []
  idle : ∀ k t, n < k → schedule[k]? = some t → t.caller ≠ j

/-- How far the creation of a caller has come. -/
inductive Stage (start : Crowd (Except Refusal Pool)) (schedule : List Turn) (j : Nat) :
    Script (Except Refusal Pool) → Prop
  | placing {draft : PoolDraft} {id : PoolId} (hparent : draft.parent = some id) :
      Stage start schedule j (createDraft .enforce draft).run
  | checking (draft : PoolDraft) : Stage start schedule j (Engine.checkAndCreate draft).run
  | storing {draft : PoolDraft} {n : Nat} (hcleared : start.Cleared schedule j n draft) :
      Stage start schedule j (Action.create draft).run
  | settled (answer : Except Refusal Pool) : Stage start schedule j (.done answer)

private theorem Cleared.snoc (h : start.Cleared schedule j n draft) (hother : t.caller ≠ j) :
    start.Cleared (schedule ++ [t]) j n draft where
  lists := h.lists.snoc t
  clear := by
    obtain ⟨u, _, _, hturn, -⟩ := h.lists
    have hn : n < schedule.length := (List.getElem?_eq_some_iff.mp hturn).1
    rw [List.take_append_of_le_length hn.le]
    exact h.clear
  idle := by
    intro k u hk hturn
    by_cases hlt : k < schedule.length
    · rw [List.getElem?_append_left hlt] at hturn
      exact h.idle k u hk hturn
    · rw [List.getElem?_append_right (Nat.le_of_not_lt hlt)] at hturn
      obtain rfl := List.mem_singleton.mp (List.mem_of_getElem? hturn)
      exact hother

private theorem Stage.snoc {script : Script (Except Refusal Pool)}
    (h : Stage start schedule j script)
    (hother : t.caller ≠ j) : Stage start (schedule ++ [t]) j script := by
  cases h with
  | placing hparent => exact .placing hparent
  | checking draft => exact .checking draft
  | storing hcleared => exact .storing (hcleared.snoc hother)
  | settled answer => exact .settled answer

private theorem cleared_of_listing
    {next : Except Refusal (List Pool) → Script (Except Refusal Pool)}
    (hcaller : (start.after schedule).callers[t.caller]? = some caller)
    (hscript : caller.script = .list next)
    (hclear : unrelatedOverlaps (start.after schedule).memory.pools.rows draft = []) :
    start.Cleared (schedule ++ [t]) t.caller schedule.length draft where
  lists := by
    refine ⟨t, caller, next, ?_, rfl, ?_, hscript⟩
    · exact List.getElem?_concat_length
    · rwa [List.take_left']
      rfl
  clear := by
    rw [List.take_left' rfl]
    exact hclear
  idle := by
    intro k u hk hturn
    have hlt := (List.getElem?_eq_some_iff.mp hturn).1
    rw [List.length_append, List.length_singleton] at hlt
    omega

theorem Stage.step (h : Stage start schedule t.caller caller.script)
    (hcaller : (start.after schedule).callers[t.caller]? = some caller)
    (hlive : caller.token = .live) : ∃ script s,
    caller.script.step Session.store
        ((start.after schedule).memory.session caller.token t.now) = (script, s) ∧
      s.token = .live ∧ Stage start (schedule ++ [t]) t.caller script ∧
      (s.memory = (start.after schedule).memory ∨ ∃ draft n,
        start.Cleared schedule t.caller n draft ∧ (start.after schedule).memory.Accepts draft ∧
          s.memory = (start.after schedule).memory.push t.now draft) := by
  obtain ⟨token, script⟩ := caller
  obtain rfl : token = .live := hlive
  cases h with
  | placing hparent =>
    obtain ⟨script, hstep, rfl | ⟨refusal, rfl⟩⟩ :=
      step_createDraft_of_parent (start.after schedule).memory t.now hparent
    · exact ⟨_, _, hstep, rfl, .checking _, .inl rfl⟩
    · exact ⟨_, _, hstep, rfl, .settled _, .inl rfl⟩
  | checking draft =>
    obtain ⟨script, hstep, ⟨hclear, rfl⟩ | ⟨refusal, rfl⟩⟩ :=
      step_checkAndCreate draft (start.after schedule).memory t.now
    · have hcleared := cleared_of_listing hcaller run_checkAndCreate hclear
      exact ⟨_, _, hstep, rfl, .storing hcleared, .inl rfl⟩
    · exact ⟨_, _, hstep, rfl, .settled _, .inl rfl⟩
  | @storing draft n hcleared =>
    obtain ⟨answer, s, hstep, hlive, hmemory⟩ :=
      step_create draft (start.after schedule).memory t.now
    refine ⟨_, s, hstep, hlive, .settled answer, ?_⟩
    exact hmemory.imp_right fun ⟨haccepts, hpush⟩ => ⟨draft, n, hcleared, haccepts, hpush⟩
  | settled answer => exact ⟨_, _, rfl, rfl, .settled answer, .inl rfl⟩

/-- What holds after every turn of a schedule. The rows of earlier turns are still there, so what a
caller has seen in its listing is a part of what is stored. -/
structure Racing (start : Crowd (Except Refusal Pool)) (schedule : List Turn) : Prop where
  idsBelow : (start.after schedule).memory.IdsBelow
  grown : ∀ n, (start.after (schedule.take n)).memory.pools.rows <+:
    (start.after schedule).memory.pools.rows
  stages : ∀ j caller, (start.after schedule).callers[j]? = some caller →
    caller.token = .live ∧ Stage start schedule j caller.script
  raced : ∀ v ∈ audit (start.after schedule).memory.pools.rows,
    start.Raced schedule v.id v.otherId

private theorem Racing.exists_stores_since (h : Racing start schedule)
    (hcleared : start.Cleared schedule j n draft) {p : Pool}
    (hp : p ∈ (start.after schedule).memory.pools.rows)
    (hunseen : p ∉ (start.after (schedule.take n)).memory.pools.rows) :
    ∃ i b, i ≠ j ∧ n < b ∧ b < schedule.length ∧ start.Stores schedule b i p.id := by
  have hid : p.id ∉ (start.after (schedule.take n)).memory.pools.rows.map Pool.id := by
    intro hid
    obtain ⟨q, hq, hqp⟩ := List.mem_map.mp hid
    have hnodup := (start.after schedule).memory.pools.nodup
    obtain rfl := List.inj_on_of_nodup_map hnodup ((h.grown n).subset hq) hp hqp
    exact hunseen hq
  obtain ⟨b, i, hnb, hb, hstores⟩ := exists_stores (List.mem_map_of_mem hp) hid
  -- the turn of the listing stores nothing itself
  have hne : n ≠ b := by
    rintro rfl
    obtain ⟨u, -, -, hbefore, hafter⟩ := hstores
    rw [hcleared.lists.memory_eq] at hafter
    exact hbefore hafter
  have hlt : n < b := Nat.lt_of_le_of_ne hnb hne
  have hother : i ≠ j := by
    obtain ⟨u, hturn, rfl, -⟩ := hstores
    exact hcleared.idle b u hlt hturn
  exact ⟨i, b, hother, hlt, hb, hstores⟩

private theorem Racing.stores_of_push (h : Racing start schedule)
    (hmemory : (start.after (schedule ++ [t])).memory =
      (start.after schedule).memory.push t.now draft) :
    start.Stores (schedule ++ [t]) schedule.length t.caller
      (start.after schedule).memory.nextId := by
  refine ⟨t, List.getElem?_concat_length, rfl, ?_, ?_⟩
  · rw [List.take_left' rfl]
    intro hid
    obtain ⟨q, hq, hqid⟩ := List.mem_map.mp hid
    exact UInt64.lt_irrefl _ (hqid ▸ h.idsBelow q hq)
  · rw [List.take_of_length_le (by simp), hmemory, Memory.rows_push h.idsBelow]
    exact List.mem_map.mpr ⟨_, List.mem_append_right _ (List.mem_singleton_self _), rfl⟩

private theorem Racing.raced_of_push (h : Racing start schedule)
    (hcleared : start.Cleared schedule t.caller n draft)
    (hmemory : (start.after (schedule ++ [t])).memory =
      (start.after schedule).memory.push t.now draft) :
    ∀ v ∈ audit (start.after (schedule ++ [t])).memory.pools.rows,
      start.Raced (schedule ++ [t]) v.id v.otherId := by
  have hnodup := ((start.after schedule).memory.push t.now draft).pools.nodup
  have hlast := h.stores_of_push hmemory
  intro v hv
  rw [hmemory, Memory.rows_push h.idsBelow] at hv
  rw [Memory.rows_push h.idsBelow] at hnodup
  rcases mem_audit_concat hnodup hv with hold | ⟨p, hp, hunrelated, hviolation⟩
  · exact (h.raced v hold).snoc t
  · have hover : p.cidr.overlaps draft.cidr = true := overlaps_of_violation? hviolation
    -- a listed pool is on the declared chain of the draft, and relations are never lost
    have hunseen : p ∉ (start.after (schedule.take n)).memory.pools.rows := by
      intro hseen
      refine hunrelated (Related.symm ?_)
      refine related_of_unrelatedOverlaps_eq_nil hcleared.clear hnodup ?_
        (List.mem_append_right _ (List.mem_singleton_self _)) rfl hseen ?_
      · exact fun q hq => List.mem_append_left _ ((h.grown n).subset hq)
      · rwa [Prefix.overlaps_comm]
    obtain ⟨i, b, hij, hnb, hb, hstores⟩ := h.exists_stores_since hcleared hp hunseen
    obtain ⟨kind, -, rfl⟩ := Option.map_eq_some_iff.mp hviolation
    exact ⟨i, _, n, b, _, hij, hnb, hb, hcleared.lists.snoc t, hstores.snoc t, hlast⟩

private theorem Racing.grown_snoc (h : Racing start schedule)
    (hturn : (start.after schedule).memory.pools.rows <+:
      (start.after (schedule ++ [t])).memory.pools.rows) (n : Nat) :
    (start.after ((schedule ++ [t]).take n)).memory.pools.rows <+:
      (start.after (schedule ++ [t])).memory.pools.rows := by
  by_cases hn : n ≤ schedule.length
  · rw [List.take_append_of_le_length hn]
    exact (h.grown n).trans hturn
  · rw [List.take_of_length_le (by simp; omega)]

private theorem Racing.stages_snoc (h : Racing start schedule) {next : Caller (Except Refusal Pool)}
    (hnext : (start.after (schedule ++ [t])).callers =
      (start.after schedule).callers.set t.caller next)
    (hlive : next.token = .live) (hstage : Stage start (schedule ++ [t]) t.caller next.script) :
    ∀ j caller, (start.after (schedule ++ [t])).callers[j]? = some caller →
      caller.token = .live ∧ Stage start (schedule ++ [t]) j caller.script := by
  intro j caller hcaller
  rw [hnext, List.getElem?_set] at hcaller
  split at hcaller
  · next hj =>
    split at hcaller
    · cases hcaller
      exact ⟨hlive, hj ▸ hstage⟩
    · cases hcaller
  · next hj =>
    obtain ⟨hlive, hstage⟩ := h.stages j caller hcaller
    exact ⟨hlive, hstage.snoc hj⟩

private theorem Racing.snoc_of_memory_eq (h : Racing start schedule)
    (hsame : (start.after (schedule ++ [t])).memory = (start.after schedule).memory)
    (hstages : ∀ j caller, (start.after (schedule ++ [t])).callers[j]? = some caller →
      caller.token = .live ∧ Stage start (schedule ++ [t]) j caller.script) :
    Racing start (schedule ++ [t]) where
  idsBelow := by
    rw [hsame]
    exact h.idsBelow
  grown := h.grown_snoc (by rw [hsame])
  stages := hstages
  raced := by
    intro v hv
    rw [hsame] at hv
    exact (h.raced v hv).snoc t

private theorem Racing.snoc (h : Racing start schedule)
    (hids : (start.after (schedule ++ [t])).memory.IdsBelow) : Racing start (schedule ++ [t]) := by
  have hafter : start.after (schedule ++ [t]) = (start.after schedule).turn t :=
    after_append start schedule [t]
  cases hcaller : (start.after schedule).callers[t.caller]? with
  | none =>
    have hsame : start.after (schedule ++ [t]) = start.after schedule :=
      hafter.trans (turn_of_no_caller hcaller)
    refine h.snoc_of_memory_eq (congrArg Crowd.memory hsame) fun j caller hj => ?_
    rw [hsame] at hj
    have hother : t.caller ≠ j := by
      rintro rfl
      cases hcaller.symm.trans hj
    obtain ⟨hlive, hstage⟩ := h.stages j caller hj
    exact ⟨hlive, hstage.snoc hother⟩
  | some caller =>
    obtain ⟨hlive, hstage⟩ := h.stages t.caller caller hcaller
    obtain ⟨script, s, hstep, hnext, hstage, hmemory⟩ := hstage.step hcaller hlive
    have hturn : (start.after schedule).turn t =
        ⟨s.memory, (start.after schedule).callers.set t.caller ⟨s.token, script⟩⟩ := by
      rw [turn_of_caller hcaller, hstep]
    have hleft := congrArg Crowd.memory (hafter.trans hturn)
    have hstages := h.stages_snoc (congrArg Crowd.callers (hafter.trans hturn)) hnext hstage
    rcases hmemory with hsame | ⟨draft, n, hcleared, haccepts, hpush⟩
    · exact h.snoc_of_memory_eq (hleft.trans hsame) hstages
    · have hpushed := hleft.trans hpush
      refine ⟨hids, h.grown_snoc ?_, hstages, h.raced_of_push hcleared hpushed⟩
      rw [hpushed, Memory.rows_push h.idsBelow]
      exact List.prefix_append _ _

end Creations

section Races

variable (limits : Limits) (requests : List PoolRequest) {m : Memory}

/-- Callers that each create a pool on their own request, under tokens that do not fire. -/
def creating (m : Memory) : Crowd (Except Refusal Pool) :=
  ⟨m, requests.map fun request => ⟨.live, (createPool limits .enforce request).run⟩⟩

private theorem stage_createPool {start : Crowd (Except Refusal Pool)} (j : Nat)
    (request : PoolRequest) :
    Stage start [] j (createPool limits .enforce request).run := by
  rw [run_createPool]
  cases request.validate limits with
  | error cause => exact .settled _
  | ok draft =>
    dsimp only
    cases hparent : draft.parent with
    | none =>
      rw [createDraft_of_root hparent]
      exact .checking draft
    | some id => exact .placing hparent

private theorem racing_nil (hids : m.IdsBelow) (haudit : audit m.pools.rows = []) :
    Racing (creating limits requests m) [] where
  idsBelow := hids
  grown := fun n => by
    rw [List.take_nil]
  stages := by
    intro j caller hcaller
    obtain ⟨request, -, rfl⟩ := List.mem_map.mp (List.mem_of_getElem? hcaller)
    exact ⟨rfl, stage_createPool limits j request⟩
  raced := by
    intro v hv
    change v ∈ audit m.pools.rows at hv
    rw [haudit] at hv
    cases hv

private theorem racing_after {schedule : List Turn} (hids : m.IdsBelow)
    (haudit : audit m.pools.rows = [])
    (hlast : (creating limits requests m).IdsLast schedule) :
    Racing (creating limits requests m) schedule := by
  induction schedule using List.reverseRecOn with
  | nil => exact racing_nil limits requests hids haudit
  | append_singleton schedule t ih => exact (ih hlast.of_append).snoc (idsBelow_after hids hlast)

/-- Any number of creations on any schedule of their storage calls, over pools that an audit has
found nothing in: as long as the ids last, each violation that an audit finds later is between pools
of two callers that have raced, so where none have raced the audit goes on finding nothing. -/
theorem raced_of_mem_audit {schedule : List Turn} (hids : m.IdsBelow)
    (haudit : audit m.pools.rows = []) (hlast : (creating limits requests m).IdsLast schedule) :
    (∀ v ∈ audit ((creating limits requests m).after schedule).memory.pools.rows,
      (creating limits requests m).Raced schedule v.id v.otherId) ∧
      ((∀ id otherId, ¬(creating limits requests m).Raced schedule id otherId) →
        audit ((creating limits requests m).after schedule).memory.pools.rows = []) := by
  have hraced := (racing_after limits requests hids haudit hlast).raced
  refine ⟨hraced, fun hnone => List.eq_nil_iff_forall_not_mem.mpr fun v hv => ?_⟩
  exact hnone v.id v.otherId (hraced v hv)

/-- Three creations beside a stored pool: two of them below it in the same block, where the second
lists the pools before the first has stored its own, and one elsewhere. -/
theorem raced_of_mem_audit_siblings :
    let outer : Pool := ⟨7, "outer", .ofAddress 0x0A000000 8 (by decide), .vpc, .active, none,
      .manual, "", .empty, .epoch, .epoch⟩
    let m := Memory.empty.addPool outer
    let requests : List PoolRequest := [
      ⟨"edge", "10.1.0.0/16", none, none, some 7, none, none, .empty⟩,
      ⟨"lab", "10.1.2.0/24", none, none, some 7, none, none, .empty⟩,
      ⟨"far", "11.0.0.0/8", none, none, none, none, none, .empty⟩]
    let schedule : List Turn := [0, 1, 0, 2, 1, 0, 2, 1].map fun i => ⟨i, .epoch⟩
    m.IdsBelow ∧ audit m.pools.rows = [] ∧ (creating .standard requests m).IdsLast schedule ∧
      (∃ v ∈ audit ((creating .standard requests m).after schedule).memory.pools.rows,
        (v.name, v.id, v.otherName, v.otherId) = ("edge", 8, "lab", 10)) ∧
      (creating .standard requests m).Raced schedule 8 10 := by
  intro outer m requests schedule
  have hids : m.IdsBelow := by decide
  have haudit : audit m.pools.rows = [] := by
    rw [audit_eq_scanPairs]
    rfl
  have hlast : (creating .standard requests m).IdsLast schedule := by
    unfold IdsLast Memory.IdsLast
    decide +kernel
  have hfound : ("edge", 8, "lab", 10) ∈
      (audit ((creating .standard requests m).after schedule).memory.pools.rows).map fun v =>
        (v.name, v.id, v.otherName, v.otherId) := by
    rw [audit_eq_scanPairs]
    decide +kernel
  obtain ⟨v, hv, hpair⟩ := List.mem_map.mp hfound
  obtain ⟨hall, -⟩ := raced_of_mem_audit .standard requests hids haudit hlast
  have hraced := hall v hv
  obtain ⟨-, hid, -, hother⟩ : v.name = "edge" ∧ v.id = 8 ∧ v.otherName = "lab" ∧
      v.otherId = 10 := by simpa using hpair
  rw [hid, hother] at hraced
  exact ⟨hids, haudit, hlast, ⟨v, hv, hpair⟩, hraced⟩

/-- Two creations that list the pools of an empty memory before either of them has stored its own
are both let through. -/
theorem audit_after_race :
    let requests : List PoolRequest := [
      ⟨"wide", "10.0.0.0/8", none, none, none, none, none, .empty⟩,
      ⟨"deep", "10.0.0.0/16", none, none, none, none, none, .empty⟩]
    let schedule : List Turn := [0, 1, 0, 1].map fun i => ⟨i, .epoch⟩
    let stored := ((creating .standard requests .empty).after schedule).memory.pools.rows
    audit Memory.empty.pools.rows = [] ∧
      (audit stored).map (fun v => (v.name, v.otherName)) = [("wide", "deep")] := by
  intro requests schedule stored
  have hfound : (audit stored).map (fun v => (v.name, v.otherName)) = [("wide", "deep")] := by
    rw [audit_eq_scanPairs]
    decide +kernel
  exact ⟨rfl, hfound⟩

end Races

end Crowd
end AddressPlan
