import AddressPlan.Proofs.Store.Calls
/-!
# Visits to a memory

A memory is visited by its callers one call at a time, each caller under a token of its own. There
are only three things that a visit can do to the pools: leave them alone, store a new pool under the
next id, or change one in its place. So the pools keep their names apart and their ids for good.
-/
namespace AddressPlan

inductive StoreCall
  | list
  | get (id : PoolId)
  | create (draft : PoolDraft)
  | update (id : PoolId) (change : PoolUpdate)
  | accounts
  | addAccount (account : Account)

inductive StoreAnswer
  | pools (answer : Except Refusal (List Pool))
  | found (answer : Except Refusal (Option Pool))
  | created (answer : Except Refusal Pool)
  | changed (answer : Except Refusal Pool)
  | accounts (answer : Except Refusal (List Account))
  | added

def StoreAnswer.newId? : StoreAnswer → Option PoolId
  | created (.ok pool) => some pool.id
  | _ => none

def StoreCall.perform : StoreCall → Session → StoreAnswer × Session
  | list, s => (Session.store.list s).map .pools id
  | get poolId, s => (Session.store.get poolId s).map .found id
  | create draft, s => (Session.store.create draft s).map .created id
  | update poolId change, s => (Session.store.update poolId change s).map .changed id
  | accounts, s => (Session.store.accounts s).map .accounts id
  | addAccount account, s => (.added, { s with memory := s.memory.addAccount account })

def Memory.session (m : Memory) (token : Token) (now : Instant) : Session :=
  ⟨m, token, .none, 0, now⟩

/-- One call of some caller, under the token of that caller. -/
structure Visit where
  token : Token
  now : Instant
  call : StoreCall

namespace Visit

def answer (v : Visit) (m : Memory) : StoreAnswer :=
  (v.call.perform (m.session v.token v.now)).1

def leaves (v : Visit) (m : Memory) : Memory :=
  (v.call.perform (m.session v.token v.now)).2.memory

end Visit

namespace Memory

def after (m : Memory) (visits : List Visit) : Memory :=
  visits.foldl (fun m v => v.leaves m) m

def newIds : Memory → List Visit → List PoolId
  | _, [] => []
  | m, v :: visits => (v.answer m).newId?.toList ++ newIds (v.leaves m) visits

end Memory

section Steps

/-- All that a visit can do to a memory, with what it answers. -/
inductive Visit.Does (v : Visit) (m : Memory) : StoreAnswer → Memory → Prop
  | spares {answer : StoreAnswer} (accounts : Keyed AccountId Account.id)
      (hnew : answer.newId? = none)
      (hlist : ∀ pools, answer = .pools (.ok pools) → pools = m.pools.rows) :
      Does v m answer { m with accounts := accounts }
  | stores {draft : PoolDraft} (haccepts : m.Accepts draft) :
      Does v m (.created (.ok (draft.toPool m.nextId v.now))) (m.push v.now draft)
  | changes {id : PoolId} {change : PoolUpdate} {old : Pool} (hfind : m.pools.find? id = some old) :
      Does v m (.changed (.ok { change.applyTo old with updatedAt := v.now }))
        { m with pools := m.pools.insert { change.applyTo old with updatedAt := v.now } }

theorem Visit.Does.of_untouched {v : Visit} {m : Memory} {answer : StoreAnswer} {t : Session}
    (h : Session.Untouched (m.session v.token v.now) t) (hnew : answer.newId? = none)
    (hlist : ∀ pools, answer = .pools (.ok pools) → pools = m.pools.rows) :
    v.Does m answer t.memory := by
  rw [h.memory]
  exact .spares m.accounts hnew hlist

theorem Visit.does (v : Visit) (m : Memory) : v.Does m (v.answer m) (v.leaves m) := by
  obtain ⟨token, now, call⟩ := v
  unfold answer leaves
  cases call with
  | list =>
    refine .of_untouched Session.untouched_list rfl fun pools hpools => ?_
    have hlist : Session.store.list (m.session token now) = (.ok pools, _) :=
      Prod.ext (StoreAnswer.pools.inj hpools) rfl
    exact (Session.list_eq_ok hlist).2
  | get id => exact .of_untouched (Session.untouched_get id) rfl fun _ hpools => nomatch hpools
  | accounts => exact .of_untouched Session.untouched_accounts rfl fun _ hpools => nomatch hpools
  | addAccount account => exact .spares _ rfl fun _ hpools => nomatch hpools
  | create draft =>
    by_cases hstores : (m.session token now).Stores draft
    · have hcreate : Session.store.create draft (m.session token now) = _ :=
        Session.create_of_stores hstores
      simp only [StoreCall.perform, hcreate]
      exact .stores hstores.accepts
    · obtain ⟨refusal, hrefused⟩ := Session.create_of_not_stores hstores
      have hcreate : Session.store.create draft (m.session token now) = _ := hrefused
      simp only [StoreCall.perform, hcreate]
      exact .spares m.accounts rfl fun _ hpools => nomatch hpools
  | update id change =>
    cases hrun : Session.store.update id change (m.session token now) with
    | mk result t =>
      simp only [StoreCall.perform, hrun]
      cases result with
      | error refusal =>
        have hsame := Session.untouched_of_update_error hrun
        exact .of_untouched hsame rfl fun _ hpools => nomatch hpools
      | ok pool =>
        obtain ⟨old, hfind, rfl, rfl⟩ := Session.update_eq_ok hrun
        exact .changes hfind

end Steps

section Identity

def Memory.ExtendedBy (m n : Memory) : Prop :=
  ∀ p ∈ m.pools.rows, ∃ q ∈ n.pools.rows, q.SetOnce p

theorem Pool.SetOnce.refl (p : Pool) : p.SetOnce p :=
  ⟨rfl, rfl, rfl, rfl, rfl, rfl, rfl⟩

theorem Pool.SetOnce.trans {p q r : Pool} (h : p.SetOnce q) (h' : q.SetOnce r) : p.SetOnce r :=
  ⟨h.id.trans h'.id, h.name.trans h'.name, h.cidr.trans h'.cidr, h.kind.trans h'.kind,
    h.parent.trans h'.parent, h.source.trans h'.source, h.createdAt.trans h'.createdAt⟩

namespace Memory

variable {m n : Memory} {v : Visit} {answer : StoreAnswer}

/-- Every stored pool has a name of its own, up to letter case. -/
def NamesApart (m : Memory) : Prop :=
  m.pools.rows.Pairwise fun p q => Text.lowercase p.name ≠ Text.lowercase q.name

theorem ExtendedBy.refl (m : Memory) : m.ExtendedBy m :=
  fun p hp => ⟨p, hp, .refl p⟩

theorem ExtendedBy.trans {o : Memory} (h : m.ExtendedBy n) (h' : n.ExtendedBy o) :
    m.ExtendedBy o := by
  intro p hp
  obtain ⟨q, hq, hqp⟩ := h p hp
  obtain ⟨r, hr, hrq⟩ := h' q hq
  exact ⟨r, hr, hrq.trans hqp⟩

theorem NamesApart.push {draft : PoolDraft} (h : m.NamesApart) (haccepts : m.Accepts draft)
    (now : Instant) : (m.push now draft).NamesApart := by
  have hfree := holder?_eq_none_iff.mp haccepts.name
  exact pairwise_insertRow h fun pool hpool => ⟨hfree pool hpool, (hfree pool hpool).symm⟩

theorem NamesApart.change {id : PoolId} {old : Pool} (h : m.NamesApart)
    (hfind : m.pools.find? id = some old) (change : PoolUpdate) (now : Instant) :
    ({ m with pools := m.pools.insert { change.applyTo old with updatedAt := now } } :
      Memory).NamesApart := by
  obtain ⟨f, hrows, hsame⟩ := rows_change now change hfind
  change (m.pools.insert _).rows.Pairwise _
  rw [hrows, List.pairwise_map]
  refine List.Pairwise.imp_of_mem (fun {p q} hp hq hne => ?_) h
  rwa [(hsame p hp).name, (hsame q hq).name]

private theorem NamesApart.does (h : m.NamesApart) (hdoes : v.Does m answer n) : n.NamesApart := by
  cases hdoes with
  | spares accounts => exact h
  | stores haccepts => exact h.push haccepts v.now
  | changes hfind => exact h.change hfind _ v.now

theorem newId?_of_does (hdoes : v.Does m answer n) :
    answer.newId? = none ∧ n.nextId = m.nextId ∨
      answer.newId? = some m.nextId ∧ n.nextId = m.nextId + 1 := by
  cases hdoes with
  | spares accounts hnew => exact .inl ⟨hnew, rfl⟩
  | stores haccepts => exact .inr ⟨rfl, rfl⟩
  | changes hfind => exact .inl ⟨rfl, rfl⟩

private theorem IdsBelow.does (h : m.IdsBelow) (hdoes : v.Does m answer n)
    (hlast : m.nextId.toNat + answer.newId?.toList.length < 2 ^ 64) : n.IdsBelow := by
  cases hdoes with
  | spares accounts => exact h
  | stores haccepts => exact h.push hlast
  | changes hfind => exact h.change v.now _ hfind

end Memory

end Identity

section Runs

namespace Memory

variable {m : Memory} {v : Visit} {visits later : List Visit}

/-- There are ids above the counter for all that the visits create. -/
def IdsLast (m : Memory) (visits : List Visit) : Prop :=
  m.nextId.toNat + (m.newIds visits).length < 2 ^ 64

theorem after_append (m : Memory) (visits later : List Visit) :
    m.after (visits ++ later) = (m.after visits).after later :=
  List.foldl_append

private theorem newIds_append (m : Memory) (visits later : List Visit) :
    m.newIds (visits ++ later) = m.newIds visits ++ (m.after visits).newIds later := by
  induction visits generalizing m with
  | nil => rfl
  | cons v visits ih =>
    rw [List.cons_append, newIds, newIds, ih, List.append_assoc]
    rfl

theorem NamesApart.after (h : m.NamesApart) (visits : List Visit) :
    (m.after visits).NamesApart := by
  induction visits generalizing m with
  | nil => exact h
  | cons v visits ih => exact ih (h.does (v.does m))

private theorem toNat_nextId_leaves
    (hlast : m.nextId.toNat + (v.answer m).newId?.toList.length < 2 ^ 64) :
    (v.leaves m).nextId.toNat = m.nextId.toNat + (v.answer m).newId?.toList.length := by
  rcases newId?_of_does (v.does m) with ⟨hnew, hnext⟩ | ⟨hnew, hnext⟩
  · rw [hnext, hnew]
    rfl
  · rw [hnew] at hlast ⊢
    rw [hnext, UInt64.toNat_add]
    exact Nat.mod_eq_of_lt hlast

private theorem IdsLast.cons (h : m.IdsLast (v :: visits)) :
    m.nextId.toNat + (v.answer m).newId?.toList.length < 2 ^ 64 ∧
      (v.leaves m).IdsLast visits := by
  rw [IdsLast, newIds, List.length_append] at h
  have hfirst : m.nextId.toNat + (v.answer m).newId?.toList.length < 2 ^ 64 := by omega
  refine ⟨hfirst, ?_⟩
  rw [IdsLast, toNat_nextId_leaves hfirst]
  omega

theorem IdsBelow.after (h : m.IdsBelow) (hlast : m.IdsLast visits) :
    (m.after visits).IdsBelow := by
  induction visits generalizing m with
  | nil => exact h
  | cons v visits ih =>
    obtain ⟨hfirst, hrest⟩ := hlast.cons
    exact ih (h.does (v.does m) hfirst) hrest

theorem newIds_eq (hlast : m.IdsLast visits) :
    (m.newIds visits).map UInt64.toNat =
        List.range' m.nextId.toNat (m.newIds visits).length ∧
      (m.after visits).nextId.toNat = m.nextId.toNat + (m.newIds visits).length := by
  induction visits generalizing m with
  | nil => exact ⟨rfl, rfl⟩
  | cons v visits ih =>
    obtain ⟨hfirst, hrest⟩ := hlast.cons
    obtain ⟨hids, hnext⟩ := ih hrest
    change (m.after (v :: visits)).nextId.toNat = _ at hnext
    rw [toNat_nextId_leaves hfirst] at hids hnext
    rw [hnext, newIds, List.map_append, hids, List.length_append]
    refine ⟨?_, by omega⟩
    rcases newId?_of_does (v.does m) with ⟨hnew, -⟩ | ⟨hnew, -⟩
    · simp [hnew]
    · simp [hnew, Nat.add_comm 1, List.range'_succ]

theorem IdsLast.of_append (h : m.IdsLast (visits ++ later)) :
    m.IdsLast visits ∧ (m.after visits).IdsLast later := by
  rw [IdsLast, newIds_append, List.length_append] at h
  have hvisits : m.IdsLast visits := by
    rw [IdsLast]
    omega
  refine ⟨hvisits, ?_⟩
  rw [IdsLast, (newIds_eq hvisits).2]
  omega

end Memory

end Runs

end AddressPlan
