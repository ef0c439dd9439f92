import Mathlib.Algebra.Group.Nat.Defs
import AddressPlan.Proofs.Store.Perform
import AddressPlan.Proofs.Store.Rows
/-!
# Storage calls

What each call does to the memory and to a session: when a draft is accepted, which pool it
becomes, and that a call which is refused or only reads leaves everything but the count of the
token as it was.
-/
namespace AddressPlan

/-- Two pools agree in all that is set once, at creation. -/
structure Pool.SetOnce (p q : Pool) : Prop where
  id : p.id = q.id
  name : p.name = q.name
  cidr : p.cidr = q.cidr
  kind : p.kind = q.kind
  parent : p.parent = q.parent
  source : p.source = q.source
  createdAt : p.createdAt = q.createdAt

namespace Memory

variable {m : Memory} {now : Instant} {draft : PoolDraft}

/-- The id counter stands above every stored id. -/
def IdsBelow (m : Memory) : Prop :=
  ∀ pool ∈ m.pools.rows, pool.id < m.nextId

instance (m : Memory) : Decidable m.IdsBelow :=
  inferInstanceAs (Decidable (∀ pool ∈ m.pools.rows, pool.id < m.nextId))

/-- Nothing in the memory stands against a draft. -/
structure Accepts (m : Memory) (draft : PoolDraft) : Prop where
  parent : ∀ id, draft.parent = some id → (m.pools.find? id).isSome = true
  name : m.holder? draft.name = none

def push (now : Instant) (draft : PoolDraft) (m : Memory) : Memory :=
  { m with
    pools := m.pools.insert (draft.toPool m.nextId now)
    nextId := m.nextId + 1 }

theorem missingParent_eq_none_iff :
    (draft.parent.filter fun id => (m.pools.find? id).isNone) = none ↔
      ∀ id, draft.parent = some id → (m.pools.find? id).isSome = true := by
  simp only [Option.filter_eq_none_iff, Option.isNone_iff_eq_none, Option.isSome_iff_ne_none, ne_eq]

theorem create_of_parent (now : Instant)
    (hparent : ∀ id, draft.parent = some id → (m.pools.find? id).isSome = true) :
    m.create now draft = match m.holder? draft.name with
      | some pool => (.error (.clash (.nameTaken draft.name pool.id)), m)
      | none => (.ok (draft.toPool m.nextId now), m.push now draft) := by
  simp only [create, missingParent_eq_none_iff.mpr hparent]
  rfl

theorem create_of_accepts (h : m.Accepts draft) :
    m.create now draft = (.ok (draft.toPool m.nextId now), m.push now draft) := by
  simp only [create_of_parent now h.parent, h.name]

theorem create_of_not_accepts (now : Instant) (h : ¬m.Accepts draft) :
    ∃ refusal, refusal ≠ .cancelled ∧ m.create now draft = (.error refusal, m) := by
  by_cases hparent : ∀ id, draft.parent = some id → (m.pools.find? id).isSome = true
  · rw [create_of_parent now hparent]
    cases hname : m.holder? draft.name with
    | some pool => exact ⟨_, Refusal.noConfusion, rfl⟩
    | none => exact absurd ⟨hparent, hname⟩ h
  · have hmissing := mt missingParent_eq_none_iff.mp hparent
    obtain ⟨id, hid⟩ := Option.ne_none_iff_exists'.mp hmissing
    simp only [create, hid]
    exact ⟨_, Refusal.noConfusion, rfl⟩

theorem toNat_nextId_push (hroom : m.nextId.toNat + 1 < 2 ^ 64) :
    (m.push now draft).nextId.toNat = m.nextId.toNat + 1 := by
  change (m.nextId + 1).toNat = _
  rw [UInt64.toNat_add]
  exact Nat.mod_eq_of_lt hroom

theorem mem_rows_push {pool : Pool} : pool ∈ (m.push now draft).pools.rows ↔
    pool = draft.toPool m.nextId now ∨ pool ∈ m.pools.rows ∧ pool.id ≠ m.nextId :=
  mem_insertRow m.pools.ascending

theorem rows_push (h : m.IdsBelow) :
    (m.push now draft).pools.rows = m.pools.rows ++ [draft.toPool m.nextId now] :=
  Keyed.rows_insert_of_last h

theorem IdsBelow.push (h : m.IdsBelow) (hroom : m.nextId.toNat + 1 < 2 ^ 64) :
    (m.push now draft).IdsBelow := by
  intro pool hmem
  rw [rows_push h] at hmem
  rw [UInt64.lt_iff_toNat_lt, toNat_nextId_push hroom]
  rcases List.mem_append.mp hmem with hmem | hmem
  · have := UInt64.lt_iff_toNat_lt.mp (h pool hmem)
    omega
  · obtain rfl := List.mem_singleton.mp hmem
    exact Nat.lt_succ_self _

theorem holder?_eq_none_iff {name : String} : m.holder? name = none ↔
    ∀ pool ∈ m.pools.rows, Text.lowercase pool.name ≠ Text.lowercase name := by
  simp [holder?]

theorem mem_of_holder? {name : String} {pool : Pool} (h : m.holder? name = some pool) :
    pool ∈ m.pools.rows ∧ Text.lowercase pool.name = Text.lowercase name := by
  unfold holder? at h
  exact ⟨List.mem_of_find?_eq_some h, by simpa using List.find?_some h⟩

theorem update_of_find? {id : PoolId} {change : PoolUpdate} {pool : Pool}
    (h : m.pools.find? id = some pool) : m.update now id change =
      (.ok { change.applyTo pool with updatedAt := now },
        { m with pools := m.pools.insert { change.applyTo pool with updatedAt := now } }) := by
  simp only [update, h]

private theorem rows_replace {pool old : Pool} (hold : old ∈ m.pools.rows)
    (hsame : pool.SetOnce old) :
    ∃ f : Pool → Pool, (m.pools.insert pool).rows = m.pools.rows.map f ∧
      ∀ p ∈ m.pools.rows, (f p).SetOnce p := by
  have hfind : m.pools.find? pool.id = some old :=
    Keyed.find?_eq_some_iff.mpr ⟨hold, hsame.id.symm⟩
  refine ⟨_, Keyed.rows_insert_of_find? hfind, fun p hp => ?_⟩
  by_cases heq : p.id = pool.id
  · obtain rfl := List.inj_on_of_nodup_map m.pools.nodup hp hold (heq.trans hsame.id)
    rw [if_pos heq]
    exact hsame
  · rw [if_neg heq]
    exact ⟨rfl, rfl, rfl, rfl, rfl, rfl, rfl⟩

theorem rows_change {id : PoolId} {old : Pool} (now : Instant) (change : PoolUpdate)
    (h : m.pools.find? id = some old) : ∃ f : Pool → Pool,
    (m.pools.insert { change.applyTo old with updatedAt := now }).rows = m.pools.rows.map f ∧
      ∀ p ∈ m.pools.rows, (f p).SetOnce p :=
  rows_replace (Keyed.find?_eq_some_iff.mp h).1 ⟨rfl, rfl, rfl, rfl, rfl, rfl, rfl⟩

theorem IdsBelow.change {id : PoolId} {old : Pool} (h : m.IdsBelow) (now : Instant)
    (change : PoolUpdate) (hfind : m.pools.find? id = some old) :
    ({ m with pools := m.pools.insert { change.applyTo old with updatedAt := now } } :
      Memory).IdsBelow := by
  obtain ⟨f, hrows, hsame⟩ := rows_change now change hfind
  intro p hp
  change p ∈ (m.pools.insert _).rows at hp
  rw [hrows] at hp
  obtain ⟨q, hq, rfl⟩ := List.mem_map.mp hp
  rw [(hsame q hq).id]
  exact h q hq

end Memory

namespace Session

variable {α : Type} {s t u : Session} {draft : PoolDraft}

def fresh (memory : Memory) (now : Instant) : Session :=
  ⟨memory, .live, .none, 0, now⟩

/-- Nothing has happened to a session but calls that left its token with fewer to go. -/
def Untouched (s t : Session) : Prop :=
  t = { s with token := t.token }

theorem Untouched.refl (s : Session) : Untouched s s :=
  rfl

theorem Untouched.trans (h : Untouched s t) (h' : Untouched t u) : Untouched s u := by
  rw [Untouched] at *
  rw [h', h]

theorem Untouched.memory (h : Untouched s t) : t.memory = s.memory := by
  rw [h]

theorem Untouched.created (h : Untouched s t) : t.created = s.created := by
  rw [h]

def tick (s : Session) : Session :=
  { s with token := s.token.tick }

private theorem untouched_tick (s : Session) : Untouched s s.tick :=
  rfl

/-- A call goes through to the memory. -/
structure Admits (s : Session) (fault : Option String) : Prop where
  open_ : s.exhausted = false
  sound : fault = none
  live : s.token.hasFired = false

theorem call_of_admits {fault : Option String} {act : Memory → Except Refusal α × Memory}
    (h : s.Admits fault) :
    s.call fault act = ((act s.memory).1, { s.tick with memory := (act s.memory).2 }) := by
  simp only [call, h.open_, h.sound, h.live, Bool.false_eq_true, if_false]
  rfl

theorem call_of_exhausted {fault : Option String} {act : Memory → Except Refusal α × Memory}
    (h : s.exhausted = true) : s.call fault act = (.error .cancelled, s.tick) := by
  unfold call
  exact if_pos h

theorem call_of_not_admits {fault : Option String} (act : Memory → Except Refusal α × Memory)
    (h : ¬s.Admits fault) : ∃ refusal, s.call fault act = (.error refusal, s.tick) := by
  unfold call
  by_cases hopen : s.exhausted = true
  · exact ⟨_, if_pos hopen⟩
  · rw [if_neg hopen]
    cases fault with
    | some text => exact ⟨_, rfl⟩
    | none =>
      by_cases hlive : s.token.hasFired = true
      · exact ⟨_, if_pos hlive⟩
      · exact absurd ⟨by simpa using hopen, rfl, by simpa using hlive⟩ h

private theorem untouched_call {fault : Option String} {act : Memory → Except Refusal α × Memory}
    (h : (act s.memory).2 = s.memory) : Untouched s (s.call fault act).2 := by
  by_cases hadmits : s.Admits fault
  · rw [call_of_admits hadmits, h]
    rfl
  · obtain ⟨refusal, hcall⟩ := call_of_not_admits act hadmits
    rw [hcall]
    exact untouched_tick s

def createFault (s : Session) (name : String) : Option String :=
  (s.faults.creates.find? name).map Prod.snd

structure Stores (s : Session) (draft : PoolDraft) : Prop where
  admits : s.Admits (s.createFault draft.name)
  accepts : s.memory.Accepts draft

def push (s : Session) (draft : PoolDraft) : Session :=
  { s.tick with
    memory := s.memory.push s.now draft
    created := s.created + 1 }

theorem create_of_stores (h : s.Stores draft) :
    create draft s = (.ok (draft.toPool s.memory.nextId s.now), s.push draft) := by
  have hcall : s.call (s.createFault draft.name) (Memory.create s.now draft) = _ :=
    call_of_admits h.admits
  rw [Memory.create_of_accepts h.accepts] at hcall
  rw [create, ← createFault, hcall]
  rfl

theorem create_of_refused {refusal : Refusal} (hadmits : s.Admits (s.createFault draft.name))
    (h : s.memory.create s.now draft = (.error refusal, s.memory)) :
    create draft s = (.error refusal, s.tick) := by
  have hcall : s.call (s.createFault draft.name) (Memory.create s.now draft) = _ :=
    call_of_admits hadmits
  rw [h] at hcall
  rw [create, ← createFault, hcall]
  rfl

theorem create_of_not_stores (h : ¬s.Stores draft) :
    ∃ refusal, create draft s = (.error refusal, s.tick) := by
  by_cases hadmits : s.Admits (s.createFault draft.name)
  · have haccepts : ¬s.memory.Accepts draft := fun haccepts => h ⟨hadmits, haccepts⟩
    obtain ⟨refusal, -, hcreate⟩ := Memory.create_of_not_accepts s.now haccepts
    exact ⟨refusal, create_of_refused hadmits hcreate⟩
  · obtain ⟨refusal, hcall⟩ := call_of_not_admits (Memory.create s.now draft) hadmits
    rw [create, ← createFault, hcall]
    exact ⟨refusal, rfl⟩

theorem create_ne_cancelled {refusal : Refusal} (h : s.Admits none)
    (hcreate : create draft s = (.error refusal, t)) : refusal ≠ .cancelled := by
  rw [create, ← createFault] at hcreate
  cases hfault : s.createFault draft.name with
  | some text =>
    simp only [call, h.open_, hfault, Bool.false_eq_true, if_false] at hcreate
    cases hcreate
    exact Refusal.noConfusion
  | none =>
    rw [hfault, call_of_admits h] at hcreate
    by_cases haccepts : s.memory.Accepts draft
    · rw [Memory.create_of_accepts haccepts] at hcreate
      cases hcreate
    · obtain ⟨refusal', hne, hrefused⟩ :=
        Memory.create_of_not_accepts s.now haccepts
      rw [hrefused] at hcreate
      cases hcreate
      exact hne

theorem create_of_exhausted (h : s.exhausted = true) :
    create draft s = (.error .cancelled, s.tick) := by
  rw [create, call_of_exhausted h]

theorem untouched_of_create_error {refusal : Refusal}
    (h : create draft s = (.error refusal, t)) : Untouched s t := by
  by_cases hstores : s.Stores draft
  · rw [create_of_stores hstores] at h
    cases h
  · obtain ⟨refusal', hcreate⟩ := create_of_not_stores hstores
    rw [hcreate] at h
    cases h
    exact untouched_tick s

theorem list_of_admits (h : s.Admits s.faults.list) :
    store.list s = (.ok s.memory.pools.rows, s.tick) :=
  call_of_admits h

theorem perform_list_of_admits (h : s.Admits s.faults.list) :
    Action.perform store Action.list s = (.ok s.memory.pools.rows, s.tick) :=
  list_of_admits h

theorem get_of_admits {id : PoolId} (h : s.Admits none) :
    store.get id s = (.ok (s.memory.pools.find? id), s.tick) :=
  call_of_admits h

theorem accounts_of_admits (h : s.Admits s.faults.accounts) :
    store.accounts s = (.ok s.memory.accounts.rows, s.tick) :=
  call_of_admits h

theorem list_eq_ok {pools : List Pool} (h : store.list s = (.ok pools, t)) :
    s.Admits s.faults.list ∧ pools = s.memory.pools.rows := by
  by_cases hadmits : s.Admits s.faults.list
  · rw [list_of_admits hadmits] at h
    cases h
    exact ⟨hadmits, rfl⟩
  · obtain ⟨refusal, hcall⟩ := call_of_not_admits (Memory.store s.now).list hadmits
    cases h.symm.trans hcall

theorem get_eq_ok {id : PoolId} {found : Option Pool} (h : store.get id s = (.ok found, t)) :
    found = s.memory.pools.find? id := by
  by_cases hadmits : s.Admits none
  · rw [get_of_admits hadmits] at h
    cases h
    rfl
  · obtain ⟨refusal, hcall⟩ := call_of_not_admits ((Memory.store s.now).get id) hadmits
    cases h.symm.trans hcall

theorem untouched_list : Untouched s (store.list s).2 :=
  untouched_call rfl

theorem untouched_get (id : PoolId) : Untouched s (store.get id s).2 :=
  untouched_call rfl

theorem untouched_accounts : Untouched s (store.accounts s).2 :=
  untouched_call rfl

theorem update_eq_ok {id : PoolId} {change : PoolUpdate} {pool : Pool}
    (h : store.update id change s = (.ok pool, t)) :
    ∃ old, s.memory.pools.find? id = some old ∧
      pool = { change.applyTo old with updatedAt := s.now } ∧
      t = { s.tick with memory := { s.memory with pools := s.memory.pools.insert pool } } := by
  have hstore : store.update id change s = s.call none (Memory.update s.now id change) := rfl
  rw [hstore] at h
  by_cases hadmits : s.Admits none
  · rw [call_of_admits hadmits] at h
    cases hfind : s.memory.pools.find? id with
    | none =>
      simp only [Memory.update, hfind] at h
      cases h
    | some old =>
      rw [Memory.update_of_find? hfind] at h
      cases h
      exact ⟨old, rfl, rfl, rfl⟩
  · obtain ⟨refusal, hcall⟩ :=
      call_of_not_admits (Memory.update s.now id change) hadmits
    cases h.symm.trans hcall

theorem untouched_of_update_error {id : PoolId} {change : PoolUpdate} {refusal : Refusal}
    (h : store.update id change s = (.error refusal, t)) : Untouched s t := by
  have hstore : store.update id change s = s.call none (Memory.update s.now id change) := rfl
  rw [hstore] at h
  cases hfind : s.memory.pools.find? id with
  | none =>
    have hsame : (Memory.update s.now id change s.memory).2 = s.memory := by
      simp only [Memory.update, hfind]
    have hcall : Untouched s (s.call none (Memory.update s.now id change)).2 :=
      untouched_call hsame
    rwa [h] at hcall
  | some pool =>
    by_cases hadmits : s.Admits none
    · rw [call_of_admits hadmits, Memory.update_of_find? hfind] at h
      cases h
    · obtain ⟨refusal', hcall⟩ :=
        call_of_not_admits (Memory.update s.now id change) hadmits
      rw [hcall] at h
      cases h
      exact untouched_tick s

end Session
end AddressPlan
