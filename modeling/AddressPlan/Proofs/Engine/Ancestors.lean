import AddressPlan.Proofs.Ancestry.Pairs
import AddressPlan.Proofs.Engine.Nesting
/-!
# Walks on any graph of parents

Two walks follow the declared parents: one over the ids of a list, and one that asks a store for a
pool after the other. Whatever the parents are, both walks come to an end by themselves, and the
pools that the second one meets are the stored ones among the ids of the first.
-/
namespace AddressPlan
open AddressPlan.Action (perform)
open Session (store)

/-- A walk over a store, without a bound on its steps, comes to an end: with the ids of `visited`
behind it and `next` ahead, it meets the pools of `chain` until it stops. -/
inductive WalkEnds (pools : Keyed PoolId Pool.id) :
    List PoolId → Option PoolId → List Pool → Prop
  | top {visited : List PoolId} : WalkEnds pools visited none []
  | seen {visited : List PoolId} {id : PoolId} (hid : id ∈ visited) :
      WalkEnds pools visited (some id) []
  | missing {visited : List PoolId} {id : PoolId} (hid : id ∉ visited)
      (hfind : pools.find? id = none) : WalkEnds pools visited (some id) []
  | up {visited : List PoolId} {above : Pool} {chain : List Pool} (hid : above.id ∉ visited)
      (hfind : pools.find? above.id = some above)
      (hrest : WalkEnds pools (above.id :: visited) above.parent chain) :
      WalkEnds pools visited (some above.id) (above :: chain)

section Pools

variable {pools : Keyed PoolId Pool.id} {visited : List PoolId} {next : Option PoolId}
  {chain : List Pool}

theorem WalkEnds.mem_rows (h : WalkEnds pools visited next chain) :
    ∀ above ∈ chain, above ∈ pools.rows := by
  induction h with
  | top | seen | missing => simp
  | up hid hfind hrest ih =>
    intro pool hpool
    rcases List.mem_cons.mp hpool with rfl | hpool
    · exact (Keyed.find?_eq_some_iff.mp hfind).1
    · exact ih pool hpool

theorem WalkEnds.nodup (h : WalkEnds pools visited next chain) :
    (chain.map Pool.id).Nodup ∧ ∀ id ∈ chain.map Pool.id, id ∉ visited := by
  induction h with
  | top | seen | missing => simp
  | @up visited above chain hid hfind hrest ih =>
    obtain ⟨hdistinct, hfresh⟩ := ih
    have habove : above.id ∉ chain.map Pool.id := by
      intro hmem
      exact hfresh _ hmem List.mem_cons_self
    constructor
    · exact List.nodup_cons.mpr ⟨habove, hdistinct⟩
    · intro id hmem
      rcases List.mem_cons.mp hmem with rfl | hmem
      · exact hid
      · intro hvisited
        exact hfresh id hmem (List.mem_cons_of_mem _ hvisited)

private theorem WalkEnds.isChain {pool : Pool} (h : WalkEnds pools visited pool.parent chain) :
    (pool :: chain).IsChain fun below above => below.parent = some above.id := by
  generalize hparent : pool.parent = next at h
  induction h generalizing pool with
  | top | seen | missing => simp
  | up hid hfind hrest ih =>
    rw [List.isChain_cons_cons]
    exact ⟨hparent, ih rfl⟩

theorem WalkEnds.closed (h : WalkEnds pools visited next chain) :
    (∀ id, next = some id → id ∈ visited ∨ id ∈ chain.map Pool.id ∨ pools.find? id = none) ∧
      ∀ above ∈ chain, ∀ id, above.parent = some id →
        id ∈ visited ∨ id ∈ chain.map Pool.id ∨ pools.find? id = none := by
  induction h with
  | top => simp
  | seen hid => simp [hid]
  | missing hid hfind => simp [hfind]
  | @up visited above chain hid hfind hrest ih =>
    -- what the rest of the walk has visited but not met is the pool where it starts
    have hwiden : ∀ id, id ∈ above.id :: visited ∨ id ∈ chain.map Pool.id ∨
        pools.find? id = none →
        id ∈ visited ∨ id ∈ (above :: chain).map Pool.id ∨ pools.find? id = none := by
      intro id hplace
      simp only [List.map_cons, List.mem_cons] at hplace ⊢
      tauto
    constructor
    · intro id hnext
      simp [Option.some.inj hnext]
    · intro pool hpool id hparent
      apply hwiden
      rcases List.mem_cons.mp hpool with rfl | hpool
      · exact ih.1 id hparent
      · exact ih.2 pool hpool id hparent

private theorem WalkEnds.mem_of_reaches {pool : Pool} (hpool : pool ∈ pools.rows)
    (h : WalkEnds pools [pool.id] pool.parent chain) {id : PoolId}
    (hreach : Relation.ReflTransGen (ListedUnder pools.rows) pool.id id) :
    id = pool.id ∨ id ∈ chain.map Pool.id ∨ pools.find? id = none := by
  induction hreach with
  | refl => exact Or.inl rfl
  | @tail a b _ hstep ih =>
    obtain ⟨below, hbelow, rfl, hparent⟩ := hstep
    have hfind : pools.find? below.id = some below := Keyed.find?_eq_some_iff.mpr ⟨hbelow, rfl⟩
    rcases ih with hself | hmet | hmissing
    · have hsame := List.inj_on_of_nodup_map pools.nodup hbelow hpool hself
      rw [hsame] at hparent
      simpa using h.closed.1 b hparent
    · obtain ⟨above, hmem, hid⟩ := List.mem_map.mp hmet
      have hsame := List.inj_on_of_nodup_map pools.nodup (h.mem_rows above hmem) hbelow hid
      rw [hsame] at hmem
      simpa using h.closed.2 below hmem b hparent
    · rw [hfind] at hmissing
      cases hmissing

theorem WalkEnds.reaches {pool : Pool} (hpool : pool ∈ pools.rows)
    (h : WalkEnds pools visited pool.parent chain) : ∀ id ∈ chain.map Pool.id,
      Relation.ReflTransGen (ListedUnder pools.rows) pool.id id := by
  generalize hparent : pool.parent = next at h
  induction h generalizing pool with
  | top | seen | missing => simp
  | @up visited above chain hid hfind hrest ih =>
    have habove : above ∈ pools.rows := (Keyed.find?_eq_some_iff.mp hfind).1
    have hstep : ListedUnder pools.rows pool.id above.id := ⟨pool, hpool, rfl, hparent⟩
    intro id hmem
    rcases List.mem_cons.mp hmem with rfl | hmem
    · exact .single hstep
    · exact .head hstep (ih habove rfl id hmem)

end Pools

namespace Engine

variable {u : Session}

/-- Fuel for every stored pool is more than the walk needs: it stops where the walk without a bound
does. -/
private theorem walkEnds_ancestorsFrom (hlive : u.token = .live) (hadmits : u.Admits none)
    {fuel : Nat}
    {visited : List PoolId} (next : Option PoolId)
    (hfuel : u.memory.pools.rows.length < fuel + visited.length) (hnodup : visited.Nodup)
    (hstored : visited ⊆ u.memory.pools.rows.map Pool.id) : ∃ chain,
    perform store (ancestorsFrom fuel visited next) u = (.ok chain, u) ∧
      WalkEnds u.memory.pools visited next chain := by
  induction fuel generalizing visited next with
  | zero =>
    have hle := (List.subperm_of_subset hnodup hstored).length_le
    rw [List.length_map] at hle
    omega
  | succ fuel ih =>
    cases next with
    | none => exact ⟨[], rfl, .top⟩
    | some id =>
      by_cases hid : id ∈ visited
      · refine ⟨[], ?_, .seen hid⟩
        rw [ancestorsFrom, if_pos hid]
        rfl
      · have hget := perform_get_of_live hlive hadmits id
        rw [ancestorsFrom, if_neg hid, Action.perform_bind_of_ok hget]
        cases hfind : u.memory.pools.find? id with
        | none => exact ⟨[], rfl, .missing hid hfind⟩
        | some above =>
          obtain ⟨hmem, rfl⟩ := Keyed.find?_eq_some_iff.mp hfind
          have hlength : u.memory.pools.rows.length < fuel + (above.id :: visited).length := by
            rw [List.length_cons]
            omega
          have hall : above.id :: visited ⊆ u.memory.pools.rows.map Pool.id :=
            List.cons_subset.mpr ⟨List.mem_map_of_mem hmem, hstored⟩
          obtain ⟨chain, hrun, hends⟩ :=
            ih above.parent hlength (List.nodup_cons.mpr ⟨hid, hnodup⟩) hall
          refine ⟨above :: chain, ?_, .up hid hfind hends⟩
          dsimp only
          rw [Action.perform_bind_of_ok hrun]
          rfl

private theorem length_rows_le (pools : Keyed PoolId Pool.id) :
    pools.rows.length ≤ UInt64.size := by
  have hnodup : ((pools.rows.map Pool.id).map UInt64.toNat).Nodup :=
    pools.nodup.map fun a b => UInt64.toNat_inj.mp
  have hsub : (pools.rows.map Pool.id).map UInt64.toNat ⊆ List.range UInt64.size := by
    intro n hn
    obtain ⟨id, -, rfl⟩ := List.mem_map.mp hn
    exact List.mem_range.mpr id.toNat_lt
  have hle := (List.subperm_of_subset hnodup hsub).length_le
  simpa using hle

private theorem walkEnds_ancestors (hlive : u.token = .live) (hadmits : u.Admits none) {pool : Pool}
    (hmem : pool ∈ u.memory.pools.rows) : ∃ chain,
    perform store (ancestors pool.id) u = (.ok chain, u) ∧
      WalkEnds u.memory.pools [pool.id] pool.parent chain := by
  have hlength : u.memory.pools.rows.length < UInt64.size + [pool.id].length :=
    Nat.lt_succ_of_le (length_rows_le u.memory.pools)
  have hstored : [pool.id] ⊆ u.memory.pools.rows.map Pool.id := by
    simpa using ⟨pool, hmem, rfl⟩
  obtain ⟨chain, hrun, hends⟩ :=
    walkEnds_ancestorsFrom hlive hadmits pool.parent hlength (by simp) hstored
  refine ⟨chain, ?_, hends⟩
  rw [ancestors, Action.perform_bind_of_ok (perform_getPool_of_mem hlive hadmits hmem)]
  exact hrun

end Engine

/-- The pools above a pool, the nearest first, as far as declared parents can be followed: no pool
comes twice, each is the parent of the one before it, and their ids are those that a walk over ids
from the pool upward collects, less its own id and what is not stored. -/
structure StandAbove (pools : List Pool) (pool : Pool) (chain : List Pool) : Prop where
  distinct : (chain.map Pool.id).Nodup
  apart : pool ∉ chain
  linked : (pool :: chain).IsChain fun below above => below.parent = some above.id
  stored : chain ⊆ pools
  ids : ∀ id, id ∈ chain.map Pool.id ↔
    id ∈ pools.map Pool.id ∧ id ∈ ancestorIds pools (some pool.id) ∧ id ≠ pool.id

private theorem WalkEnds.standAbove {pools : Keyed PoolId Pool.id} {pool : Pool} {chain : List Pool}
    (hpool : pool ∈ pools.rows) (h : WalkEnds pools [pool.id] pool.parent chain) :
    StandAbove pools.rows pool chain := by
  have hself : pool.id ∉ chain.map Pool.id := by
    intro hmem
    exact h.nodup.2 _ hmem List.mem_cons_self
  refine ⟨h.nodup.1, ?_, h.isChain, h.mem_rows, fun id => ?_⟩
  · intro hmem
    exact hself (List.mem_map_of_mem hmem)
  · simp only [mem_ancestorIds, ascends_eq_listed pools.nodup, Option.some.injEq,
      exists_eq_left']
    constructor
    · intro hmem
      obtain ⟨above, habove, rfl⟩ := List.mem_map.mp hmem
      refine ⟨List.mem_map_of_mem (h.mem_rows above habove), h.reaches hpool _ hmem, ?_⟩
      intro heq
      exact hself (heq ▸ hmem)
    · rintro ⟨hlisted, hreach, hne⟩
      obtain ⟨above, habove, rfl⟩ := List.mem_map.mp hlisted
      have hfind : pools.find? above.id = some above :=
        Keyed.find?_eq_some_iff.mpr ⟨habove, rfl⟩
      simpa [hne, hfind] using h.mem_of_reaches hpool hreach

theorem StandAbove.congr {pools more : List Pool} {pool : Pool} {chain : List Pool}
    (hnodup : (pools.map Pool.id).Nodup) (hmore : (more.map Pool.id).Nodup)
    (hsame : ∀ p, p ∈ pools ↔ p ∈ more) (h : StandAbove pools pool chain) :
    StandAbove more pool chain := by
  have hlisted : ListedUnder pools = ListedUnder more := by
    funext a b
    simp only [ListedUnder, hsame]
  refine ⟨h.distinct, h.apart, h.linked, fun p hp => (hsame p).mp (h.stored hp), fun id => ?_⟩
  rw [h.ids]
  simp only [mem_ancestorIds, ascends_eq_listed hnodup, ascends_eq_listed hmore, hlisted,
    List.mem_map, hsame]

/-- Both walks come to an end on every set of pools. The walk over ids collects the ids that are
reachable from where it starts, and the walk over a memory meets, in their order, the stored pools
that the walk over ids passes. -/
theorem walks_agree {pools : List Pool} (hnodup : (pools.map Pool.id).Nodup) :
    (∀ start, ClimbEnds pools [] start (ancestorIds pools start) ∧
      (ancestorIds pools start).Nodup ∧
      ∀ id, id ∈ ancestorIds pools start ↔
        ∃ first, start = some first ∧ Relation.ReflTransGen (ListedUnder pools) first id) ∧
    ∀ u : Session, (∀ pool, pool ∈ u.memory.pools.rows ↔ pool ∈ pools) → u.token = .live →
      u.exhausted = false → ∀ pool ∈ pools, ∃ chain,
        perform store (Engine.ancestors pool.id) u = (.ok chain, u) ∧
          WalkEnds u.memory.pools [pool.id] pool.parent chain ∧ StandAbove pools pool chain := by
  constructor
  · intro start
    have hends := climbEnds_ancestorIds pools start
    refine ⟨hends, hends.nodup .nil, fun id => ?_⟩
    rw [mem_ancestorIds, ascends_eq_listed hnodup]
  · intro u hsame hlive hopen pool hmem
    have hadmits : u.Admits none := ⟨hopen, rfl, by rw [hlive]; rfl⟩
    have hstored := (hsame pool).mpr hmem
    obtain ⟨chain, hrun, hends⟩ := Engine.walkEnds_ancestors hlive hadmits hstored
    exact ⟨chain, hrun, hends,
      (hends.standAbove hstored).congr u.memory.pools.nodup hnodup hsame⟩

/-- A pool below two that declare each other, one that declares itself, and one whose parent is
missing. -/
theorem walks_agree_circles :
    let pool (id parent : PoolId) : Pool := ⟨id, "", .ofAddress 0x0A000000 8 (by decide), .subnet,
      .active, some parent, .manual, "", .empty, .epoch, .epoch⟩
    let below := pool 4 5
    let pools := [pool 5 6, pool 6 5, below, pool 7 7, pool 9 8]
    let u := Session.fresh (pools.foldl Memory.addPool .empty) .epoch
    (pools.map Pool.id).Nodup ∧ (∀ pool, pool ∈ u.memory.pools.rows ↔ pool ∈ pools) ∧
      u.token = .live ∧ u.exhausted = false ∧ below ∈ pools ∧
      ancestorIds pools (some 4) = [6, 5, 4] ∧ ancestorIds pools (some 9) = [8, 9] ∧
      ∃ chain, perform store (Engine.ancestors below.id) u = (.ok chain, u) ∧
        chain.map Pool.id = [5, 6] ∧ StandAbove pools below chain := by
  intro pool below pools u
  have hnodup : (pools.map Pool.id).Nodup := by decide
  have hsame : ∀ pool, pool ∈ u.memory.pools.rows ↔ pool ∈ pools := by
    have hperm : u.memory.pools.rows.isPerm pools = true := by decide +kernel
    intro pool
    exact (List.isPerm_iff.mp hperm).mem_iff
  have hbelow : below ∈ pools := by simp [pools]
  obtain ⟨chain, hrun, -, habove⟩ := (walks_agree hnodup).2 u hsame rfl rfl below hbelow
  have hids : (perform store (Engine.ancestors below.id) u).1.map (·.map Pool.id) =
      .ok [5, 6] := by
    decide +kernel
  rw [hrun] at hids
  exact ⟨hnodup, hsame, rfl, rfl, hbelow, by decide, by decide, chain, hrun,
    Except.ok.inj hids, habove⟩

end AddressPlan
