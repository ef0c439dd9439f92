import AddressPlan.Proofs.Engine.Changes
/-!
# Nested pools

In a nested memory every declared parent is stored, has a smaller id and contains its child. So
parents form a forest without anyone looking for circles: ids are given in ascending order, and
what a change leaves alone is all that nesting is about. The walk up from a pool of a nested memory
comes to a root.
-/
namespace AddressPlan
open AddressPlan.Action (perform)
open Session (store)

/-- Every declared parent is one of the pools, has a smaller id and contains its child. -/
def Nested (pools : List Pool) : Prop :=
  ∀ pool ∈ pools, ∀ id, pool.parent = some id → ∃ parent ∈ pools,
    parent.id = id ∧ parent.id < pool.id ∧ parent.cidr.contains pool.cidr = true

/-- A chain of pools that leads from a pool to a root. Every pool of the chain is the parent of the
one before it, has a smaller id and contains it. -/
inductive LeadsUp (pools : List Pool) : Pool → List Pool → Prop
  | root {pool : Pool} (hroot : pool.parent = none) : LeadsUp pools pool []
  | parent {pool above : Pool} {chain : List Pool} (hmem : above ∈ pools)
      (hparent : pool.parent = some above.id) (hid : above.id < pool.id)
      (hcontains : above.cidr.contains pool.cidr = true) (hrest : LeadsUp pools above chain) :
      LeadsUp pools pool (above :: chain)

private theorem Nested.map_of_setOnce {pools : List Pool} {f : Pool → Pool}
    (hf : ∀ p ∈ pools, (f p).SetOnce p) (h : Nested pools) : Nested (pools.map f) := by
  intro q hq id hid
  obtain ⟨pool, hmem, rfl⟩ := List.mem_map.mp hq
  rw [(hf pool hmem).parent] at hid
  obtain ⟨parent, hparent, hparentId, hlt, hcontains⟩ := h pool hmem id hid
  refine ⟨f parent, List.mem_map_of_mem hparent, ?_⟩
  rw [(hf parent hparent).id, (hf parent hparent).cidr, (hf pool hmem).id, (hf pool hmem).cidr]
  exact ⟨hparentId, hlt, hcontains⟩

namespace Memory

structure Nested (m : Memory) : Prop where
  idsBelow : m.IdsBelow
  pools : AddressPlan.Nested m.pools.rows

theorem nested_empty : Memory.empty.Nested :=
  ⟨fun _ hmem => (nomatch hmem), fun _ hmem => (nomatch hmem)⟩

theorem Nested.stored {m : Memory} {draft : PoolDraft} (now : Instant) (h : m.Nested)
    (hroom : m.nextId.toNat + 1 < 2 ^ 64) (hplaces : m.Places draft) :
    (m.push now draft).Nested := by
  refine ⟨h.idsBelow.push hroom, ?_⟩
  rw [rows_push h.idsBelow]
  intro pool hmem id hid
  rcases List.mem_append.mp hmem with hold | hnew
  · obtain ⟨parent, hparent, hnested⟩ := h.pools pool hold id hid
    exact ⟨parent, List.mem_append_left _ hparent, hnested⟩
  · obtain rfl := List.mem_singleton.mp hnew
    obtain ⟨parent, hfind, hcontains⟩ := hplaces id hid
    obtain ⟨hparent, hparentId⟩ := Keyed.find?_eq_some_iff.mp hfind
    exact ⟨parent, List.mem_append_left _ hparent, hparentId, h.idsBelow parent hparent, hcontains⟩

theorem Nested.changes {m n : Memory} {count : Nat} (hchange : m.Change Places count n)
    (hroom : m.nextId.toNat + count < 2 ^ 64) (h : m.Nested) : n.Nested := by
  cases hchange with
  | stored now haccepts hplaces => exact h.stored now hroom hplaces
  | changed now change hfind =>
    refine ⟨h.idsBelow.change now change hfind, ?_⟩
    obtain ⟨f, hrows, hsame⟩ := rows_change now change hfind
    change AddressPlan.Nested (m.pools.insert _).rows
    rw [hrows]
    exact h.pools.map_of_setOnce hsame
  | accounts accounts => exact ⟨h.idsBelow, h.pools⟩

end Memory

namespace Engine

variable {u : Session} {pool : Pool}

theorem perform_get_of_live (hlive : u.token = .live) (hadmits : u.Admits none) (id : PoolId) :
    perform store (Action.get id) u = (.ok (u.memory.pools.find? id), u) := by
  rw [Action.perform_get, Session.get_of_admits hadmits, (Session.steady_of_live hlive).tick_eq]

theorem perform_getPool_of_mem (hlive : u.token = .live) (hadmits : u.Admits none)
    (hmem : pool ∈ u.memory.pools.rows) :
    perform store (getPool pool.id) u = (.ok pool, u) := by
  have hget := perform_get_of_live hlive hadmits pool.id
  rw [Keyed.find?_eq_some_iff.mpr ⟨hmem, rfl⟩] at hget
  rw [getPool, Action.perform_bind_of_ok hget]
  rfl

/-- The walk goes on to smaller ids, so it comes to no id that it has seen, and fuel for the id
of the pool that it stands at is enough. -/
private theorem ancestorsFrom_of_nested (hlive : u.token = .live) (hadmits : u.Admits none)
    (hnested : Nested u.memory.pools.rows) {fuel : Nat} {visited : List PoolId}
    (hmem : pool ∈ u.memory.pools.rows) (hfuel : pool.id.toNat ≤ fuel)
    (hvisited : ∀ id ∈ visited, pool.id ≤ id) : ∃ chain,
    perform store (ancestorsFrom fuel visited pool.parent) u = (.ok chain, u) ∧
      LeadsUp u.memory.pools.rows pool chain := by
  induction fuel generalizing pool visited with
  | zero =>
    cases hparent : pool.parent with
    | none => exact ⟨[], rfl, .root hparent⟩
    | some id =>
      obtain ⟨parent, -, -, hlt, -⟩ := hnested pool hmem id hparent
      have hlt := UInt64.lt_iff_toNat_lt.mp hlt
      omega
  | succ fuel ih =>
    cases hparent : pool.parent with
    | none => exact ⟨[], rfl, .root hparent⟩
    | some id =>
      obtain ⟨parent, hstored, rfl, hlt, hcontains⟩ := hnested pool hmem id hparent
      have hfresh : parent.id ∉ visited := fun hseen =>
        absurd (hvisited _ hseen) (UInt64.not_le.mpr hlt)
      have hfind : u.memory.pools.find? parent.id = some parent :=
        Keyed.find?_eq_some_iff.mpr ⟨hstored, rfl⟩
      have hget := perform_get_of_live hlive hadmits parent.id
      rw [hfind] at hget
      have hsmaller := UInt64.lt_iff_toNat_lt.mp hlt
      have hseen : ∀ id ∈ parent.id :: visited, parent.id ≤ id := by
        intro id hid
        rcases List.mem_cons.mp hid with rfl | hid
        · exact UInt64.le_refl _
        · exact UInt64.le_trans (UInt64.le_of_lt hlt) (hvisited id hid)
      obtain ⟨chain, hrun, hchain⟩ := ih hstored (by omega) hseen
      refine ⟨parent :: chain, ?_, .parent hstored hparent hlt hcontains hchain⟩
      rw [ancestorsFrom, if_neg hfresh, Action.perform_bind_of_ok hget]
      dsimp only
      rw [Action.perform_bind_of_ok hrun]
      rfl

private theorem ancestors_of_nested (hlive : u.token = .live) (hadmits : u.Admits none)
    (hnested : Nested u.memory.pools.rows) (hmem : pool ∈ u.memory.pools.rows) : ∃ chain,
    perform store (ancestors pool.id) u = (.ok chain, u) ∧
      LeadsUp u.memory.pools.rows pool chain := by
  have hget := perform_getPool_of_mem hlive hadmits hmem
  have hseen : ∀ id ∈ [pool.id], pool.id ≤ id := by
    intro id hid
    rw [List.mem_singleton.mp hid]
    exact UInt64.le_refl _
  obtain ⟨chain, hrun, hchain⟩ := ancestorsFrom_of_nested hlive hadmits hnested hmem
    (Nat.le_of_lt pool.id.toNat_lt) hseen
  refine ⟨chain, ?_, hchain⟩
  rw [ancestors, Action.perform_bind_of_ok hget]
  exact hrun

end Engine

/-- The pools of a memory form a forest: each declared parent is stored, has a smaller id and
contains its child, and where calls go through, the ancestors that a session answers with are the
chain from a pool's parent to a root. -/
structure Memory.Forest (m : Memory) : Prop where
  nested : AddressPlan.Nested m.pools.rows
  ancestors : ∀ u : Session, u.memory = m → u.token = .live → u.exhausted = false →
    ∀ pool ∈ m.pools.rows, ∃ chain,
      perform Session.store (Engine.ancestors pool.id) u = (.ok chain, u) ∧
        LeadsUp m.pools.rows pool chain

theorem Memory.Nested.forest {m : Memory} (h : m.Nested) : m.Forest where
  nested := h.pools
  ancestors := by
    rintro u rfl hlive hopen pool hmem
    have hadmits : u.Admits none := ⟨hopen, rfl, by rw [hlive]; rfl⟩
    exact Engine.ancestors_of_nested hlive hadmits h.pools hmem

end AddressPlan
