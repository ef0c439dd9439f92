import AddressPlan.Proofs.NetBox.Mirror
import AddressPlan.Proofs.Store.Counter
import AddressPlan.Proofs.Store.Traces
/-!
# One contract for two stores

A run of calls on a store of pools is answered one call after the other. Against an ideal server
that starts empty the answers are those of a memory that starts empty, up to time stamps.
-/
namespace AddressPlan

section Calls

inductive PoolCall
  | list
  | get (id : PoolId)
  | create (draft : PoolDraft)
  | update (id : PoolId) (change : PoolUpdate)

inductive PoolAnswer
  | pools (answer : Except Refusal (List Pool))
  | found (answer : Except Refusal (Option Pool))
  | stored (answer : Except Refusal Pool)
deriving DecidableEq

def PoolAnswer.untimed : PoolAnswer → PoolAnswer
  | pools answer => pools (answer.map (List.map Pool.untimed))
  | found answer => found (answer.map (Option.map Pool.untimed))
  | stored answer => stored (answer.map Pool.untimed)

variable {σ : Type}

def PoolCall.perform (store : Store σ) : PoolCall → σ → PoolAnswer × σ
  | list, s => (store.list s).map .pools id
  | get poolId, s => (store.get poolId s).map .found id
  | create draft, s => (store.create draft s).map .stored id
  | update poolId change, s => (store.update poolId change s).map .stored id

/-- What the calls of a run are answered, each of them made at its own time. -/
def answers (store : Store σ) (setClock : Instant → σ → σ) :
    List (Instant × PoolCall) → σ → List PoolAnswer
  | [], _ => []
  | (now, call) :: calls, s =>
    let (answer, t) := call.perform store (setClock now s)
    answer :: answers store setClock calls t

def afterCalls (store : Store σ) (setClock : Instant → σ → σ) (calls : List (Instant × PoolCall))
    (s : σ) : σ :=
  calls.foldl (fun s c => (c.2.perform store (setClock c.1 s)).2) s

/-- The draft of a creation has gone through validation, and its name is ASCII. -/
def PoolCall.Validated : PoolCall → Prop
  | create draft => (∃ limits, draft.Produced limits) ∧ IsAscii draft.name
  | _ => True

end Calls

section Sessions

/-- A session whose calls all go through. -/
structure Session.Calm (s : Session) : Prop where
  live : s.token = .live
  sound : s.faults = .none

def Session.setClock (now : Instant) (s : Session) : Session :=
  { s with now := now }

/-- What a call does to the counter of a session, and to the number of the pools that it has
created. -/
structure Session.Counts (s : Session) (call : PoolCall) (t : Session) : Prop where
  counted : t.created = s.created ∧ t.memory.nextId = s.memory.nextId ∨
    t.created = s.created + 1 ∧ t.memory.nextId = s.memory.nextId + 1
  accepted : ∀ draft, call = .create draft → s.memory.Accepts draft → t.created = s.created + 1

variable {s t : Session}

private theorem Session.Counts.idsLast {c : PoolCall} {created : Nat} (h : s.Counts c t)
    (hlast : s.IdsLast created)
    (hle : t.created ≤ created) : t.IdsLast created := by
  rw [IdsLast] at *
  rcases h.counted with ⟨hcreated, hnext⟩ | ⟨hcreated, hnext⟩
  · rw [hcreated, hnext]
    exact hlast
  · have hroom : s.memory.nextId.toNat + 1 < 2 ^ 64 := by omega
    have hcounter : t.memory.nextId.toNat = s.memory.nextId.toNat + 1 := by
      rw [hnext, UInt64.toNat_add]
      exact Nat.mod_eq_of_lt hroom
    omega

private theorem Session.Calm.call {α : Type} (h : s.Calm)
    (act : Memory → Except Refusal α × Memory) :
    s.call none act = ((act s.memory).1, { s with memory := (act s.memory).2 }) := by
  rw [call_of_admits (admits_of_live h.live h.sound), (steady_of_live h.live).tick_eq]

private theorem Session.Calm.create (h : s.Calm) (draft : PoolDraft) : ∃ t,
    create draft s = ((s.memory.create s.now draft).1, t) ∧
      t.memory = (s.memory.create s.now draft).2 ∧ t.Calm ∧ s.Counts (.create draft) t := by
  have hadmits : s.Admits (s.createFault draft.name) := by
    rw [createFault_of_sound h.sound]
    exact admits_of_live h.live h.sound
  have htick := (steady_of_live h.live).tick_eq
  by_cases haccepts : s.memory.Accepts draft
  · refine ⟨s.push draft, ?_, ?_, ?_, .inr ⟨rfl, rfl⟩, fun _ _ _ => rfl⟩
    · rw [create_of_stores ⟨hadmits, haccepts⟩, Memory.create_of_accepts haccepts]
    · rw [Memory.create_of_accepts haccepts]
      rfl
    · rw [push, htick]
      exact ⟨h.live, h.sound⟩
  · obtain ⟨refusal, -, hrefused⟩ := Memory.create_of_not_accepts s.now haccepts
    refine ⟨s, ?_, by rw [hrefused], h, .inl ⟨rfl, rfl⟩, ?_⟩
    · rw [create_of_refused hadmits hrefused, hrefused, htick]
    · rintro _ ⟨⟩ haccepts'
      exact absurd haccepts' haccepts

theorem Session.Calm.perform (h : s.Calm) (call : PoolCall) : ∃ t,
    call.perform Session.store s = ((call.perform (Memory.store s.now) s.memory).1, t) ∧
      t.memory = (call.perform (Memory.store s.now) s.memory).2 ∧ t.Calm ∧ s.Counts call t := by
  have hcalm : ∀ memory, Session.Calm { s with memory := memory } := fun _ => ⟨h.live, h.sound⟩
  cases call with
  | list =>
    have hcall := h.call (Memory.store s.now).list
    have hfault : s.faults.list = none := by rw [h.sound]; rfl
    refine ⟨_, ?_, rfl, hcalm _, .inl ⟨rfl, rfl⟩, fun _ hcreate => nomatch hcreate⟩
    simp only [PoolCall.perform, Session.store, hfault, hcall]
    rfl
  | get id =>
    have hcall := h.call ((Memory.store s.now).get id)
    refine ⟨_, ?_, rfl, hcalm _, .inl ⟨rfl, rfl⟩, fun _ hcreate => nomatch hcreate⟩
    simp only [PoolCall.perform, Session.store, hcall]
    rfl
  | create draft =>
    obtain ⟨t, hcreate, hmemory, ht, hcounts⟩ := h.create draft
    refine ⟨t, ?_, hmemory, ht, hcounts⟩
    exact congrArg (Prod.map PoolAnswer.stored id) hcreate
  | update id change =>
    have hcall := h.call (Memory.update s.now id change)
    have hnext : (s.memory.update s.now id change).2.nextId = s.memory.nextId := by
      unfold Memory.update
      split <;> rfl
    refine ⟨{ s with memory := (s.memory.update s.now id change).2 }, ?_, rfl, hcalm _,
      .inl ⟨rfl, hnext⟩, fun _ hcreate => nomatch hcreate⟩
    simp only [PoolCall.perform, Session.store, hcall]
    rfl

private theorem Session.created_le_afterCalls (s : Session) (calls : List (Instant × PoolCall)) :
    s.created ≤ (afterCalls Session.store Session.setClock calls s).created := by
  induction calls generalizing s with
  | nil => exact Nat.le_refl s.created
  | cons head calls ih =>
    obtain ⟨now, call⟩ := head
    refine Nat.le_trans ?_ (ih _)
    let u := s.setClock now
    cases call with
    | list => exact (created_call (s := u) (Memory.store now).list).ge
    | get poolId =>
      change u.created ≤ (u.call none ((Memory.store now).get poolId)).2.created
      exact (created_call _).ge
    | create draft => exact created_le_create (s := u) draft
    | update poolId change =>
      change u.created ≤ (u.call none (Memory.update now poolId change)).2.created
      exact (created_call _).ge

end Sessions

namespace NetBox

section Simulation

variable {s : Server} {m : Memory}

theorem Server.Mirrors.perform (h : s.Mirrors m) (setup : Setup) (key : String) (now : Instant)
    {call : PoolCall} (hvalidated : call.Validated)
    (hroom : ∀ draft, call = .create draft → m.Accepts draft → m.nextId.toNat + 1 < 2 ^ 64) :
    ∃ answer t,
    call.perform (store (setup.client key) setup.remote) ⟨s, .live⟩ = (answer, ⟨t, .live⟩) ∧
      answer.untimed = (call.perform (Memory.store now) m).1.untimed ∧
      t.Mirrors (call.perform (Memory.store now) m).2 := by
  cases call with
  | list =>
    obtain ⟨pools, hrun, hsame⟩ := h.run_listPools setup key
    refine ⟨.pools (.ok pools), s, ?_, ?_, h⟩
    · exact congrArg (Prod.map PoolAnswer.pools id) hrun
    · exact congrArg (PoolAnswer.pools ∘ Except.ok) hsame
  | get poolId =>
    obtain ⟨found, hrun, hsame⟩ := h.run_getPool setup key poolId
    refine ⟨.found (.ok found), s, ?_, ?_, h⟩
    · exact congrArg (Prod.map PoolAnswer.found id) hrun
    · exact congrArg (PoolAnswer.found ∘ Except.ok) hsame
  | create draft =>
    obtain ⟨⟨limits, hproduced⟩, hascii⟩ := hvalidated
    obtain ⟨answer, t, hrun, hsame, hmirrors⟩ :=
      h.run_createPool setup key hproduced.nonBlank?_name hascii now (hroom draft rfl)
    refine ⟨.stored answer, t, ?_, ?_, hmirrors⟩
    · exact congrArg (Prod.map PoolAnswer.stored id) hrun
    · exact congrArg PoolAnswer.stored hsame
  | update poolId change =>
    obtain ⟨answer, t, hrun, hsame, hmirrors⟩ := h.run_updatePool setup key poolId change now
    refine ⟨.stored answer, t, ?_, ?_, hmirrors⟩
    · exact congrArg (Prod.map PoolAnswer.stored id) hrun
    · exact congrArg PoolAnswer.stored hsame

private theorem answers_of_mirrors {session : Session} {calls : List (Instant × PoolCall)}
    (h : s.Mirrors session.memory) (hcalm : session.Calm) (setup : Setup) (key : String)
    (hvalidated : ∀ call ∈ calls, call.2.Validated)
    (hlast : session.IdsLast (afterCalls Session.store Session.setClock calls session).created) :
    (answers (store (setup.client key) setup.remote) (fun _ line => line) calls
        ⟨s, .live⟩).map PoolAnswer.untimed =
      (answers Session.store Session.setClock calls session).map PoolAnswer.untimed := by
  induction calls generalizing s session with
  | nil => rfl
  | cons head calls ih =>
    obtain ⟨now, call⟩ := head
    have hcalm' : (session.setClock now).Calm := ⟨hcalm.live, hcalm.sound⟩
    obtain ⟨after, hsession, hmemory, hafter, hcounts⟩ := hcalm'.perform call
    have hend : afterCalls Session.store Session.setClock ((now, call) :: calls) session =
        afterCalls Session.store Session.setClock calls after := by
      rw [afterCalls, List.foldl_cons, hsession, afterCalls]
    rw [hend] at hlast
    have hle := Session.created_le_afterCalls after calls
    have hroom : ∀ draft, call = .create draft → session.memory.Accepts draft →
        session.memory.nextId.toNat + 1 < 2 ^ 64 := by
      intro draft hcreate haccepts
      have hcreated : after.created = session.created + 1 :=
        hcounts.accepted draft hcreate haccepts
      rw [Session.IdsLast] at hlast
      omega
    obtain ⟨hcall, hcalls⟩ := List.forall_mem_cons.mp hvalidated
    obtain ⟨answer, t, hserver, hsame, hmirrors⟩ := h.perform setup key now hcall hroom
    have hnext : t.Mirrors after.memory := hmemory ▸ hmirrors
    simp only [answers, hsession, hserver, List.map_cons]
    exact congrArg₂ List.cons hsame (ih hnext hafter hcalls (hcounts.idsLast hlast hle))

/-- However an ideal server cuts its listings into pages and stamps its records, the store that
talks to it answers a run of calls as a memory store does, up to time stamps. Both start empty, and
there have to be ids for all pools that the run creates. -/
theorem answers_eq_memory (setup : Setup) (key : String) (start : Instant)
    {calls : List (Instant × PoolCall)} (hvalidated : ∀ call ∈ calls, call.2.Validated)
    (hlast : (afterCalls Session.store Session.setClock calls (.fresh .empty start)).created + 1 <
      2 ^ 64) :
    (answers (store (setup.client key) setup.remote) (fun _ line => line) calls
        ⟨.empty, .live⟩).map PoolAnswer.untimed =
      (answers Session.store Session.setClock calls (.fresh .empty start)).map
        PoolAnswer.untimed := by
  refine answers_of_mirrors mirrors_empty ⟨rfl, rfl⟩ setup key hvalidated ?_
  have hfirst : (Session.fresh .empty start).memory.nextId.toNat = 1 := rfl
  have hnone : (Session.fresh .empty start).created = 0 := rfl
  rw [Session.IdsLast, hfirst, hnone, Nat.add_comm]
  exact hlast

/-- A run in which two pools are stored, one of them in the other, and a third one is refused since
its name differs in letter case only. The pages hold one record each, the newest first. -/
theorem answers_eq_memory_two :
    let setup : Setup := {
      address := "http://netbox"
      absolute := by decide
      cut := fun rows => rows.reverse.map fun row => [row]
      perm_cut := fun rows => by
        rw [← List.flatMap_def, List.flatMap_singleton']
        exact List.reverse_perm rows
      most := List.length
      length_cut_le := fun h => by simpa using h.length_le
      stamp := fun n => if n = 0 then none else some "2024-01-02T03:04:05Z" }
    let outer : PoolDraft := ⟨"Outer", .ofAddress 0x0A000000 8 (by decide), .supernet, .planned,
      none, .manual, "", .ofList [("env", "lab")]⟩
    let inner : PoolDraft := ⟨"inner", .ofAddress 0x0A000000 16 (by decide), .vpc, .planned,
      some 1, .manual, "", .empty⟩
    let clash : PoolDraft := ⟨"OUTER", .ofAddress 0x0B000000 8 (by decide), .supernet, .planned,
      none, .manual, "", .empty⟩
    let change : PoolUpdate := ⟨some .active, none, some (.ofList [("env", "prod")])⟩
    let calls : List (Instant × PoolCall) := [(.epoch, .create inner), (.epoch, .create outer),
      (.epoch, .create inner), (.epoch, .create clash), (.epoch, .update 1 change),
      (.epoch, .update 9 change), (.epoch, .get 1), (.epoch, .get 9), (.epoch, .list)]
    let first := outer.toPool 1 .epoch
    let second := inner.toPool 2 .epoch
    let changed : Pool := { first with status := .active, tags := .ofList [("env", "prod")] }
    (∀ call ∈ calls, call.2.Validated) ∧
      (afterCalls Session.store Session.setClock calls (.fresh .empty .epoch)).created + 1 <
        2 ^ 64 ∧
      (answers (store (setup.client "key") setup.remote) (fun _ line => line) calls
          ⟨.empty, .live⟩).map PoolAnswer.untimed = [
        .stored (.error (.absent (.parent 1))),
        .stored (.ok first),
        .stored (.ok second),
        .stored (.error (.clash (.nameTaken "OUTER" 1))),
        .stored (.ok changed),
        .stored (.error (.absent (.pool 9))),
        .found (.ok (some changed)),
        .found (.ok none),
        .pools (.ok [changed, second])] := by
  intro setup outer inner clash change calls first second changed
  have houter : PoolRequest.validate .standard ⟨" Outer", "10.0.0.0/8", some "supernet", none, none,
      none, none, .ofList [("env", "lab")]⟩ = .ok outer := by decide +kernel
  have hinner : PoolRequest.validate .standard ⟨"inner", "10.0.0.0/16", some "vpc", none, some 1,
      none, none, .empty⟩ = .ok inner := by decide +kernel
  have hclash : PoolRequest.validate .standard ⟨"OUTER", "11.0.0.0/8", some "supernet", none, none,
      none, none, .empty⟩ = .ok clash := by decide +kernel
  have hvalidated : ∀ call ∈ calls, call.2.Validated := by
    have hcreateInner : (PoolCall.create inner).Validated :=
      ⟨⟨_, .request hinner⟩, by decide⟩
    have hcreateOuter : (PoolCall.create outer).Validated :=
      ⟨⟨_, .request houter⟩, by decide⟩
    have hcreateClash : (PoolCall.create clash).Validated :=
      ⟨⟨_, .request hclash⟩, by decide⟩
    simp only [calls, List.forall_mem_cons]
    exact ⟨hcreateInner, hcreateOuter, hcreateInner, hcreateClash, trivial, trivial, trivial,
      trivial, trivial, fun _ hcall => nomatch hcall⟩
  have hlast :
      (afterCalls Session.store Session.setClock calls (.fresh .empty .epoch)).created + 1 <
        2 ^ 64 := by
    decide +kernel
  refine ⟨hvalidated, hlast, (answers_eq_memory setup "key" .epoch hvalidated hlast).trans ?_⟩
  decide +kernel

end Simulation

end NetBox
end AddressPlan
