import Mathlib.Data.List.Pairwise
import AddressPlan.Proofs.Ancestry.Chains
import AddressPlan.Proofs.Ancestry.Scans
/-!
# The overlap rule

A set of pools is compliant when any two that overlap are related along the declared parents. The
audit is empty exactly on compliant sets, the gate of a single creation and the check of a plan
against the store are read the same way, and both gates keep a set compliant.
-/
namespace AddressPlan

variable {pools more : List Pool}

/-- One of the two ids stands on the chain of the other. -/
def Related (pools : List Pool) (a b : PoolId) : Prop :=
  Ascends pools a b ∨ Ascends pools b a

/-- Pools overlap only along the declared parents. -/
def Compliant (pools : List Pool) : Prop :=
  ∀ p ∈ pools, ∀ q ∈ pools, p.cidr.overlaps q.cidr = true → Related pools p.id q.id

theorem Related.symm {a b : PoolId} (h : Related pools a b) : Related pools b a :=
  Or.symm h

theorem Related.of_subset {a b : PoolId} (hmore : (more.map Pool.id).Nodup) (hsub : pools ⊆ more)
    (h : Related pools a b) : Related more a b :=
  h.imp (·.of_subset hmore hsub) (·.of_subset hmore hsub)

private theorem mem_overlapping_pools {p : Prefix} {pool : Pool} :
    pool ∈ ((poolIndex pools).overlapping p).filterMap (pools[·]?) ↔
      pool ∈ pools ∧ p.overlaps pool.cidr = true := by
  rw [overlapping_pools, List.mem_filter]

theorem mem_ancestorIds_iff_related {a b : PoolId} :
    b ∈ ancestorIds pools (some a) ∨ a ∈ ancestorIds pools (some b) ↔ Related pools a b := by
  simp [mem_ancestorIds, Related]

theorem unrelatedOverlaps_eq_nil_iff {draft : PoolDraft} : unrelatedOverlaps pools draft = [] ↔
    ∀ pool ∈ pools, draft.cidr.overlaps pool.cidr = true →
      ∃ parent, draft.parent = some parent ∧ Ascends pools parent pool.id := by
  simp only [unrelatedOverlaps, List.filterMap_eq_nil_iff, List.mem_mergeSort, List.mem_filter,
    mem_overlapping_pools, decide_eq_true_eq, ← mem_ancestorIds]
  constructor
  · intro h pool hmem hover
    by_contra hunrelated
    have hnone := conflict?_eq_none_iff.mp (h pool ⟨⟨hmem, hover⟩, hunrelated⟩)
    cases hover.symm.trans hnone
  · rintro h pool ⟨⟨hmem, hover⟩, hunrelated⟩
    exact absurd (h pool hmem hover) hunrelated

/-- A pool that the gate has let through beside some pools is related to all of them that it
overlaps, whatever is stored besides. -/
theorem related_of_unrelatedOverlaps_eq_nil {draft : PoolDraft} {new pool : Pool}
    (h : unrelatedOverlaps pools draft = []) (hmore : (more.map Pool.id).Nodup)
    (hsub : pools ⊆ more) (hnew : new ∈ more) (hparent : new.parent = draft.parent)
    (hpool : pool ∈ pools) (hover : draft.cidr.overlaps pool.cidr = true) :
    Related more new.id pool.id := by
  obtain ⟨parent, hdeclared, hascends⟩ := unrelatedOverlaps_eq_nil_iff.mp h pool hpool hover
  have hdeclares : Declares more new.id parent :=
    (declares_iff hmore).mpr ⟨new, hnew, rfl, hparent.trans hdeclared⟩
  exact .inl (.head hdeclares (hascends.of_subset hmore hsub))

theorem finding_eq_some_iff {p q : Pool} {v : Violation} : finding pools p q = some v ↔
    ¬Related pools p.id q.id ∧ violation? p q = some v := by
  rw [finding, ← mem_ancestorIds_iff_related]
  split
  · next hrelated =>
    constructor
    · intro hv
      cases hv
    · exact fun hv => absurd hrelated hv.1
  · next hunrelated => exact ⟨fun hv => ⟨hunrelated, hv⟩, And.right⟩

theorem mem_audit_concat {new : Pool} {v : Violation}
    (hnodup : ((pools ++ [new]).map Pool.id).Nodup) (h : v ∈ audit (pools ++ [new])) :
    v ∈ audit pools ∨ ∃ p ∈ pools, ¬Related (pools ++ [new]) p.id new.id ∧
      violation? p new = some v := by
  rw [audit_eq_scanPairs] at h ⊢
  rcases mem_scanPairs_concat h with hold | ⟨p, hp, hfound⟩
  · refine .inl (mem_scanPairs_of_imp (fun p q hfound => ?_) hold)
    obtain ⟨hunrelated, hviolation⟩ := finding_eq_some_iff.mp hfound
    have hbefore : ¬Related pools p.id q.id := fun hrelated =>
      hunrelated (hrelated.of_subset hnodup (List.subset_append_left _ _))
    exact finding_eq_some_iff.mpr ⟨hbefore, hviolation⟩
  · exact .inr ⟨p, hp, finding_eq_some_iff.mp hfound⟩

theorem conflictsOf_eq_nil_iff {planned : List PlannedPool} : conflictsOf planned pools = [] ↔
    ∀ plan ∈ planned, ∀ pool ∈ pools, plan.cidr.overlaps pool.cidr = false := by
  simp only [conflictsOf, poolsById, List.flatMap_eq_nil_iff, List.filterMap_eq_nil_iff,
    List.mem_mergeSort, mem_overlapping_pools, conflict?_eq_none_iff]
  constructor
  · intro h plan hplan pool hpool
    cases hover : plan.cidr.overlaps pool.cidr with
    | false => rfl
    | true => exact absurd (h plan hplan pool ⟨hpool, hover⟩) (by simp [hover])
  · exact fun h plan hplan pool hpool => h plan hplan pool hpool.1

theorem Compliant.map_of_fields {f : Pool → Pool} (hid : ∀ p ∈ pools, (f p).id = p.id)
    (hcidr : ∀ p ∈ pools, (f p).cidr = p.cidr) (hparent : ∀ p ∈ pools, (f p).parent = p.parent)
    (hnodup : (pools.map Pool.id).Nodup) (h : Compliant pools) : Compliant (pools.map f) := by
  have hids : (pools.map f).map Pool.id = pools.map Pool.id := by
    rw [List.map_map]
    exact List.map_congr_left hid
  have hdeclares : ∀ a b, Declares pools a b → Declares (pools.map f) a b := by
    intro a b hab
    obtain ⟨pool, hmem, ha, hb⟩ := exists_of_declares hab
    refine (declares_iff (hids ▸ hnodup)).mpr ⟨f pool, List.mem_map_of_mem hmem, ?_, ?_⟩
    · rw [hid pool hmem, ha]
    · rw [hparent pool hmem, hb]
  have hascends : ∀ {a b}, Ascends pools a b → Ascends (pools.map f) a b :=
    fun {a b} hab => Relation.ReflTransGen.mono hdeclares a b hab
  intro p' hp' q' hq' hover
  obtain ⟨p, hp, rfl⟩ := List.mem_map.mp hp'
  obtain ⟨q, hq, rfl⟩ := List.mem_map.mp hq'
  rw [hcidr p hp, hcidr q hq] at hover
  rw [hid p hp, hid q hq]
  exact (h p hp q hq hover).imp hascends hascends

theorem Compliant.append {added : List Pool} (h : Compliant pools)
    (hnodup : ((pools ++ added).map Pool.id).Nodup)
    (hadded : ∀ p ∈ added, ∀ q ∈ pools ++ added, p.cidr.overlaps q.cidr = true →
      Related (pools ++ added) p.id q.id) : Compliant (pools ++ added) := by
  intro p hp q hq hover
  rcases List.mem_append.mp hp with hpold | hpnew
  · rcases List.mem_append.mp hq with hqold | hqnew
    · exact (h p hpold q hqold hover).of_subset hnodup (List.subset_append_left _ _)
    · rw [Prefix.overlaps_comm] at hover
      exact (hadded q hqnew p hp hover).symm
  · exact hadded p hpnew q hq hover

end AddressPlan
