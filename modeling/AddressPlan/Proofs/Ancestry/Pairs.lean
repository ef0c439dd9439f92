import Mathlib
import AddressPlan.Proofs.Ancestry.OverlapRule
import AddressPlan.Proofs.Prefix.Addresses
/-!
# What an audit reports

An audit reports a pair of pools exactly if they share an address and neither is reachable from the
other along the declared parents. Each pair is reported once, and the pairs stand in the order of
their places in the list, whatever the parents are: chains may dangle or run in circles.
-/
namespace AddressPlan

def ListedUnder (pools : List Pool) (a b : PoolId) : Prop :=
  ∃ pool ∈ pools, pool.id = a ∧ pool.parent = some b

/-- Two pools share an address, and no chain of listed pools leads from one to the other. -/
structure Collide (pools : List Pool) (p q : Pool) : Prop where
  shares : ∃ address, p.cidr.containsAddress address = true ∧
    q.cidr.containsAddress address = true
  notAbove : ¬Relation.ReflTransGen (ListedUnder pools) p.id q.id
  notBelow : ¬Relation.ReflTransGen (ListedUnder pools) q.id p.id

def Violation.between (p q : Pool) : Violation where
  id := p.id
  name := p.name
  cidr := p.cidr
  otherId := q.id
  otherName := q.name
  otherCidr := q.cidr
  overlap := if p.cidr.contains q.cidr then .contains else .containedBy

section Findings

variable {pools : List Pool} {p q : Pool}

theorem ascends_eq_listed (hnodup : (pools.map Pool.id).Nodup) :
    Ascends pools = Relation.ReflTransGen (ListedUnder pools) := by
  have hsame : Declares pools = ListedUnder pools :=
    funext fun a => funext fun b => propext (declares_iff hnodup)
  rw [Ascends, hsame]

private theorem related_iff_listed (hnodup : (pools.map Pool.id).Nodup) {a b : PoolId} :
    Related pools a b ↔ Relation.ReflTransGen (ListedUnder pools) a b ∨
      Relation.ReflTransGen (ListedUnder pools) b a := by
  rw [Related, ascends_eq_listed hnodup]

private theorem collide_iff (hnodup : (pools.map Pool.id).Nodup) :
    Collide pools p q ↔ p.cidr.overlaps q.cidr = true ∧ ¬Related pools p.id q.id := by
  rw [Prefix.overlaps_iff_exists_address, related_iff_listed hnodup, not_or]
  exact ⟨fun h => ⟨h.shares, h.notAbove, h.notBelow⟩, fun h => ⟨h.1, h.2.1, h.2.2⟩⟩

private theorem violation?_of_overlaps (h : p.cidr.overlaps q.cidr = true) :
    violation? p q = some (.between p q) := by
  rw [violation?, classify_of_overlaps h]
  rfl

private theorem finding_eq_some_iff_collide (hnodup : (pools.map Pool.id).Nodup) {v : Violation} :
    finding pools p q = some v ↔ Collide pools p q ∧ .between p q = v := by
  rw [finding_eq_some_iff, collide_iff hnodup]
  constructor
  · rintro ⟨hunrelated, hviolation⟩
    have hover := overlaps_of_violation? hviolation
    rw [violation?_of_overlaps hover] at hviolation
    exact ⟨⟨hover, hunrelated⟩, Option.some.inj hviolation⟩
  · rintro ⟨⟨hover, hunrelated⟩, rfl⟩
    exact ⟨hunrelated, violation?_of_overlaps hover⟩

end Findings

section Pairs

variable {α : Type}

/-- Each element of a list with each of those behind it. -/
private def pairsOf : List α → List (α × α)
  | [] => []
  | a :: as => as.map (a, ·) ++ pairsOf as

private theorem scanPairs_map (found : Pool → Pool → Option Violation) (f : α → Pool)
    (as : List α) :
    scanPairs found (as.map f) = (pairsOf as).filterMap fun (a, b) => found (f a) (f b) := by
  induction as with
  | nil => rfl
  | cons a as ih =>
    rw [List.map_cons, scanPairs, ih, pairsOf, List.filterMap_append, List.filterMap_map,
      List.filterMap_map]
    rfl

variable {n : Nat} {places : List (Fin n)}

private theorem mem_pairsOf_iff (h : places.Pairwise (· < ·)) {i j : Fin n} :
    (i, j) ∈ pairsOf places ↔ i ∈ places ∧ j ∈ places ∧ i < j := by
  induction h with
  | nil => simp [pairsOf]
  | @cons k places hk _ ih =>
    rw [pairsOf, List.mem_append, ih, List.mem_map, List.mem_cons, List.mem_cons]
    constructor
    · rintro (⟨j', hj, heq⟩ | ⟨hi, hj, hlt⟩)
      · cases heq
        exact ⟨.inl rfl, .inr hj, hk j hj⟩
      · exact ⟨.inr hi, .inr hj, hlt⟩
    · rintro ⟨rfl | hi, rfl | hj, hlt⟩
      · exact absurd hlt (Fin.lt_irrefl _)
      · exact .inl ⟨j, hj, rfl⟩
      · exact absurd (Fin.lt_trans hlt (hk i hi)) (Fin.lt_irrefl _)
      · exact .inr ⟨hi, hj, hlt⟩

private theorem pairwise_pairsOf (h : places.Pairwise (· < ·)) :
    (pairsOf places).Pairwise fun x y => x.1 < y.1 ∨ x.1 = y.1 ∧ x.2 < y.2 := by
  induction h with
  | nil => exact .nil
  | @cons k places hk hplaces ih =>
    refine List.pairwise_append.mpr ⟨?_, ih, ?_⟩
    · exact List.pairwise_map.mpr (hplaces.imp fun hlt => .inr ⟨rfl, hlt⟩)
    · rintro x hx ⟨i, j⟩ hy
      obtain ⟨j', -, rfl⟩ := List.mem_map.mp hx
      exact .inl (hk i ((mem_pairsOf_iff hplaces).mp hy).1)

end Pairs

/-- An audit reports the collisions of a list, pair by pair in the order of their places, and
nothing else. -/
theorem audit_eq_map_collisions {pools : List Pool} (hnodup : (pools.map Pool.id).Nodup) :
    ∃ pairs : List (Fin pools.length × Fin pools.length),
      pairs.Pairwise (fun x y => x.1 < y.1 ∨ x.1 = y.1 ∧ x.2 < y.2) ∧
      (∀ i j, (i, j) ∈ pairs ↔ i < j ∧ Collide pools pools[i] pools[j]) ∧
      audit pools = pairs.map fun (i, j) => .between pools[i] pools[j] := by
  classical
  have hplaces : (List.finRange pools.length).Pairwise (· < ·) := List.pairwise_lt_finRange _
  have hpools : (List.finRange pools.length).map (fun i => pools[i]) = pools :=
    List.map_getElem_finRange pools
  refine ⟨(pairsOf (List.finRange pools.length)).filter fun (i, j) =>
    Collide pools pools[i] pools[j], (pairwise_pairsOf hplaces).filter _, fun i j => ?_, ?_⟩
  · simp [mem_pairsOf_iff hplaces]
  · -- the scan of the pools is a scan of their places: these are what the pairs are made of
    have hscan := scanPairs_map (finding pools) (fun i : Fin pools.length => pools[i])
      (List.finRange pools.length)
    rw [hpools] at hscan
    rw [audit_eq_scanPairs, hscan, ← List.filterMap_eq_map, List.filterMap_filter]
    refine List.filterMap_congr fun ⟨i, j⟩ _ => ?_
    refine Option.ext fun v => ?_
    rw [finding_eq_some_iff_collide hnodup]
    simp

/-- Two pools that declare each other, one that declares itself, and one whose parent is missing:
all share addresses, and only the first two are related. -/
theorem audit_eq_map_collisions_circles :
    let pool (id : PoolId) (cidr : Prefix) (parent : PoolId) : Pool :=
      ⟨id, "", cidr, .vpc, .active, some parent, .manual, "", .empty, .epoch, .epoch⟩
    let stray := pool 9 (.ofAddress 0x0A000100 24 (by decide)) 8
    let wide := pool 5 (.ofAddress 0x0A000000 8 (by decide)) 6
    let deep := pool 6 (.ofAddress 0x0A000000 16 (by decide)) 5
    let own := pool 7 (.ofAddress 0x0A000000 16 (by decide)) 7
    let pools := [stray, wide, deep, own]
    (pools.map Pool.id).Nodup ∧
      audit pools = [.between stray wide, .between stray deep, .between stray own,
        .between wide own, .between deep own] ∧
      ∃ pairs : List (Fin pools.length × Fin pools.length),
        pairs.Pairwise (fun x y => x.1 < y.1 ∨ x.1 = y.1 ∧ x.2 < y.2) ∧
        (∀ i j, (i, j) ∈ pairs ↔ i < j ∧ Collide pools pools[i] pools[j]) ∧
        audit pools = pairs.map fun (i, j) => .between pools[i] pools[j] := by
  intro pool stray wide deep own pools
  have hnodup : (pools.map Pool.id).Nodup := by decide
  exact ⟨hnodup, by cbv, audit_eq_map_collisions hnodup⟩

end AddressPlan
