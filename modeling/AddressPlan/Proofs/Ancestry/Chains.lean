import Mathlib.Data.List.Sublists
import Mathlib.Logic.Relation
import AddressPlan.Ancestry
/-!
# Chains of declared parents

The walk over ids is reachability along declared parents, on every set of pools: chains may dangle
or run in circles. Reachability only grows when pools are added under ids of their own.
-/
namespace AddressPlan

variable {pools more : List Pool} {a b : PoolId}

/-- `b` is the parent that the pool with the id `a` declares. -/
def Declares (pools : List Pool) (a b : PoolId) : Prop :=
  declaredParent pools a = some b

/-- `b` stands on the chain of declared parents from `a` upward, `a` included. -/
def Ascends (pools : List Pool) : PoolId → PoolId → Prop :=
  Relation.ReflTransGen (Declares pools)

theorem exists_of_declares (h : Declares pools a b) :
    ∃ pool ∈ pools, pool.id = a ∧ pool.parent = some b := by
  obtain ⟨pool, hfind, hparent⟩ := Option.bind_eq_some_iff.mp h
  refine ⟨pool, List.mem_reverse.mp (List.mem_of_find?_eq_some hfind), ?_, hparent⟩
  simpa using List.find?_some hfind

theorem declares_iff (h : (pools.map Pool.id).Nodup) :
    Declares pools a b ↔ ∃ pool ∈ pools, pool.id = a ∧ pool.parent = some b := by
  refine ⟨exists_of_declares, ?_⟩
  rintro ⟨pool, hmem, rfl, hparent⟩
  rw [Declares, declaredParent]
  cases hfind : pools.reverse.find? fun q => decide (q.id = pool.id) with
  | none =>
    have := List.find?_eq_none.mp hfind pool (List.mem_reverse.mpr hmem)
    simp at this
  | some found =>
    have hid : found.id = pool.id := by simpa using List.find?_some hfind
    have hfound := List.mem_reverse.mp (List.mem_of_find?_eq_some hfind)
    have heq : found = pool := List.inj_on_of_nodup_map h hfound hmem hid
    rw [heq]
    exact hparent

section Walk

/-- A walk over ids, without a bound on its steps, comes to an end: with the ids of `chain` behind
it and `current` ahead, it stops when it has been at `all`. -/
inductive ClimbEnds (pools : List Pool) : List PoolId → Option PoolId → List PoolId → Prop
  | top {chain : List PoolId} : ClimbEnds pools chain none chain
  | seen {chain : List PoolId} {id : PoolId} (hid : id ∈ chain) :
      ClimbEnds pools chain (some id) chain
  | up {chain all : List PoolId} {id : PoolId} (hid : id ∉ chain)
      (hrest : ClimbEnds pools (id :: chain) (declaredParent pools id) all) :
      ClimbEnds pools chain (some id) all

/-- Fuel for every pool is more than the walk needs: it stops where the walk without a bound
does. -/
private theorem climbEnds_climb {fuel : Nat} {chain : List PoolId} {current : Option PoolId}
    (hfuel : pools.length < fuel + chain.length) (hnodup : chain.Nodup)
    (hlisted : current ≠ none → ∀ x ∈ chain, x ∈ pools.map Pool.id) :
    ClimbEnds pools chain current (climb pools fuel chain current) := by
  fun_induction climb pools fuel chain current with
  | case1 chain current =>
    cases current with
    | none => exact .top
    | some id =>
      -- a chain of distinct listed ids is no longer than the list
      have hsub : chain ⊆ pools.map Pool.id := hlisted (by simp)
      have hle := (List.subperm_of_subset hnodup hsub).length_le
      rw [List.length_map] at hle
      omega
  | case2 fuel chain => exact .top
  | case3 fuel chain id hid => exact .seen hid
  | case4 fuel chain id hid ih =>
    apply ClimbEnds.up hid
    apply ih
    · rw [List.length_cons]
      omega
    · exact List.nodup_cons.mpr ⟨hid, hnodup⟩
    · intro hsome x hx
      rcases List.mem_cons.mp hx with rfl | hx
      · obtain ⟨y, hy⟩ := Option.ne_none_iff_exists'.mp hsome
        obtain ⟨pool, hmem, hpool, -⟩ := exists_of_declares hy
        exact List.mem_map.mpr ⟨pool, hmem, hpool⟩
      · exact hlisted (by simp) x hx

theorem climbEnds_ancestorIds (pools : List Pool) (start : Option PoolId) :
    ClimbEnds pools [] start (ancestorIds pools start) :=
  climbEnds_climb (by simp) .nil (by simp)

namespace ClimbEnds

variable {chain all : List PoolId} {current : Option PoolId}

theorem nodup (h : ClimbEnds pools chain current all) (hchain : chain.Nodup) : all.Nodup := by
  induction h with
  | top => exact hchain
  | seen hid => exact hchain
  | up hid hrest ih =>
    apply ih
    exact List.nodup_cons.mpr ⟨hid, hchain⟩

theorem ascends {start : PoolId} (h : ClimbEnds pools chain current all)
    (hchain : ∀ x ∈ chain, Ascends pools start x)
    (hcurrent : ∀ x, current = some x → Ascends pools start x) :
    ∀ x ∈ all, Ascends pools start x := by
  induction h with
  | top => exact hchain
  | seen hid => exact hchain
  | @up chain all id hid hrest ih =>
    have hid := hcurrent id rfl
    apply ih
    · intro x hx
      rcases List.mem_cons.mp hx with rfl | hx
      · exact hid
      · exact hchain x hx
    · intro x hx
      exact hid.tail hx

private theorem subset (h : ClimbEnds pools chain current all) :
    chain ⊆ all ∧ ∀ x, current = some x → x ∈ all := by
  induction h with
  | top => simp
  | seen hid => simp [hid]
  | up hid hrest ih =>
    obtain ⟨hid, hchain⟩ := List.cons_subset.mp ih.1
    exact ⟨hchain, by simp [hid]⟩

private theorem closed (h : ClimbEnds pools chain current all)
    (hnext : ∀ x ∈ chain, ∀ y, Declares pools x y → y ∈ chain ∨ current = some y) :
    ∀ x ∈ all, ∀ y, Declares pools x y → y ∈ all := by
  induction h with
  | top =>
    intro x hx y hy
    simpa using hnext x hx y hy
  | seen hid =>
    intro x hx y hy
    rcases hnext x hx y hy with hseen | hcurrent
    · exact hseen
    · rwa [← Option.some.inj hcurrent]
  | up hid hrest ih =>
    apply ih
    intro x hx y hy
    rcases List.mem_cons.mp hx with rfl | hx
    · exact Or.inr hy
    · rcases hnext x hx y hy with hseen | hcurrent
      · exact Or.inl (List.mem_cons_of_mem _ hseen)
      · rw [← Option.some.inj hcurrent]
        exact Or.inl List.mem_cons_self

end ClimbEnds

/-- The walk collects exactly the ids on the chain. -/
theorem mem_ancestorIds {start : Option PoolId} :
    b ∈ ancestorIds pools start ↔ ∃ s, start = some s ∧ Ascends pools s b := by
  cases start with
  | none => simp [ancestorIds, climb]
  | some s =>
    have hends := climbEnds_ancestorIds pools (some s)
    constructor
    · intro hb
      refine ⟨s, rfl, hends.ascends (by simp) (fun x hx => ?_) b hb⟩
      rw [← Option.some.inj hx]
      exact Relation.ReflTransGen.refl
    · rintro ⟨s', hs', hasc⟩
      obtain rfl := Option.some.inj hs'
      induction hasc with
      | refl => exact hends.subset.2 s rfl
      | tail _ hstep ih => exact hends.closed (by simp) _ ih _ hstep

end Walk

theorem Ascends.of_subset (hmore : (more.map Pool.id).Nodup) (hsub : pools ⊆ more)
    (h : Ascends pools a b) : Ascends more a b := by
  refine Relation.ReflTransGen.mono (fun x y hxy => ?_) a b h
  obtain ⟨pool, hmem, hid, hparent⟩ := exists_of_declares hxy
  exact (declares_iff hmore).mpr ⟨pool, hsub hmem, hid, hparent⟩

end AddressPlan
