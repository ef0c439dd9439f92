import Mathlib.Data.Set.Lattice
import Mathlib.Order.CompletePartialOrder
import AddressPlan.Overlap
import AddressPlan.Proofs.Prefix.Index
/-!
# Relations of prefixes as relations of sets

A prefix stands for the set of the addresses between its two ends. Containing is inclusion of these
sets and overlapping is having an address in common, so two prefixes that overlap nest and the
third kind of overlap does not arise.
-/
namespace AddressPlan

namespace Prefix

variable {p q : Prefix} {a : UInt32}

def addresses (p : Prefix) : Set UInt32 :=
  {a | p.first ≤ a ∧ a ≤ p.last}

theorem mem_addresses : a ∈ p.addresses ↔ p.containsAddress a = true :=
  containsAddress_iff_le.symm

private theorem first_mem_addresses (p : Prefix) : p.first ∈ p.addresses :=
  mem_addresses.mpr (containsAddress_first p)

private theorem last_mem_addresses (p : Prefix) : p.last ∈ p.addresses :=
  ⟨(first_mem_addresses p).2, UInt32.le_refl _⟩

private theorem toNat_size (p : Prefix) : p.size.toNat = blockSize p.length :=
  toNat_one_shiftLeft (by omega)

private theorem length_le_of_blockSize_le (h : blockSize q.length ≤ blockSize p.length) :
    p.length ≤ q.length := by
  have hexponent := (Nat.pow_le_pow_iff_right (by decide)).mp h
  have hp := p.length_le
  have hq := q.length_le
  omega

private theorem contains_iff_subset : p.contains q = true ↔ q.addresses ⊆ p.addresses := by
  constructor
  · intro h a ha
    have hends : q.last ≤ p.last := by
      simp only [contains, Bool.and_eq_true, decide_eq_true_eq] at h
      exact h.2
    exact ⟨UInt32.le_trans (first_le_of_contains h) ha.1, UInt32.le_trans ha.2 hends⟩
  · intro h
    have hfirst := (h (first_mem_addresses q)).1
    have hlast := (h (last_mem_addresses q)).2
    rw [UInt32.le_iff_toNat_le] at hfirst hlast
    simp only [first, toNat_last] at hfirst hlast
    have hpos := blockSize_pos p.length
    have hpos' := blockSize_pos q.length
    exact contains_iff_le.mpr ⟨length_le_of_blockSize_le (by omega), hfirst, by omega⟩

theorem overlaps_iff_inter_nonempty :
    p.overlaps q = true ↔ (p.addresses ∩ q.addresses).Nonempty := by
  simp only [overlaps_iff_exists_address, ← mem_addresses]
  rfl

private theorem disjoint_addresses_iff :
    Disjoint p.addresses q.addresses ↔ p.overlaps q = false := by
  rw [Set.disjoint_iff_inter_eq_empty, ← Set.not_nonempty_iff_eq_empty,
    ← overlaps_iff_inter_nonempty, Bool.not_eq_true]

private theorem contains_antisymm (hpq : p.contains q = true) (hqp : q.contains p = true) :
    p = q := by
  rw [contains_iff_le] at hpq hqp
  exact eq_of_toNat (by omega) (by omega)

private theorem order_of_contains (h : p.contains q = true) : (p.order q).isLE = true := by
  rw [contains_iff_le] at h
  rw [Ordering.isLE_iff_ne_gt]
  simp only [Index.order_eq_gt, UInt32.lt_iff_toNat_lt]
  omega

end Prefix

section Kinds

variable {p q : Prefix}

theorem classify_of_overlaps (h : p.overlaps q = true) :
    classify p q = some (if p.contains q then .contains else .containedBy) := by
  unfold classify
  rcases Prefix.overlaps_iff.mp h with hpq | hqp
  · simp [hpq]
  · by_cases hpq : p.contains q = true
    · simp [hpq]
    · simp [hpq, hqp]

theorem classify_eq_none_iff : classify p q = none ↔ p.overlaps q = false := by
  cases hover : p.overlaps q with
  | true => simp [classify_of_overlaps hover]
  | false =>
    have hnot : ¬(p.contains q = true ∨ q.contains p = true) := fun hnested => by
      cases hover.symm.trans (Prefix.overlaps_iff.mpr hnested)
    -- blocks that only cross would overlap all the same
    have hcross : ¬(p.first ≤ q.last ∧ q.first ≤ p.last) := fun ⟨hfirst, hlast⟩ => by
      cases hover.symm.trans (Prefix.overlaps_of_crossing hfirst hlast)
    rw [not_or] at hnot
    simp [classify, hnot, hcross]

private theorem classify_ne_partly : classify p q ≠ some .partly := by
  cases hover : p.overlaps q with
  | true =>
    rw [classify_of_overlaps hover]
    split <;> simp
  | false => simp [classify_eq_none_iff.mpr hover]

private theorem classify_eq_contains_iff : classify p q = some .contains ↔ p.contains q = true := by
  constructor
  · intro h
    by_contra hnot
    simp only [classify, hnot, if_false] at h
    split at h
    · cases h
    · split at h <;> cases h
  · intro h
    simp [classify, h]

private theorem classify_eq_containedBy_iff :
    classify p q = some .containedBy ↔ p.addresses ⊂ q.addresses := by
  rw [ssubset_iff_subset_not_subset, ← Prefix.contains_iff_subset, ← Prefix.contains_iff_subset]
  constructor
  · intro h
    have hover : p.overlaps q = true := by
      by_contra hnot
      cases h.symm.trans (classify_eq_none_iff.mpr (Bool.eq_false_iff.mpr hnot))
    have hpq : ¬p.contains q = true := fun hpq => by
      cases h.symm.trans (classify_eq_contains_iff.mpr hpq)
    exact ⟨(Prefix.overlaps_iff.mp hover).resolve_left hpq, hpq⟩
  · rintro ⟨hqp, hpq⟩
    simp [classify, hqp, hpq]

end Kinds

/-- What two prefixes are to each other is what the sets of their addresses are to each other. -/
structure ReadAsSets (p q : Prefix) : Prop where
  containsAddress_iff : ∀ a, p.containsAddress a = true ↔ a ∈ p.addresses
  size_eq : p.first.toNat + p.size.toNat = p.last.toNat + 1
  contains_iff : p.contains q = true ↔ q.addresses ⊆ p.addresses
  overlaps_iff : p.overlaps q = true ↔ (p.addresses ∩ q.addresses).Nonempty
  nested : (p.addresses ∩ q.addresses).Nonempty → p.contains q = true ∨ q.contains p = true
  never_partly : classify p q ≠ some .partly
  disjoint_iff : classify p q = none ↔ Disjoint p.addresses q.addresses
  superset_iff : classify p q = some .contains ↔ q.addresses ⊆ p.addresses
  ssubset_iff : classify p q = some .containedBy ↔ p.addresses ⊂ q.addresses
  antisymm : p.contains q = true → q.contains p = true → p = q
  trans : ∀ r, p.contains q = true → q.contains r = true → p.contains r = true
  ordered : p.contains q = true → (p.order q).isLE = true

theorem readAsSets (p q : Prefix) : ReadAsSets p q where
  containsAddress_iff _ := Prefix.mem_addresses.symm
  size_eq := by
    have hpos := blockSize_pos p.length
    rw [Prefix.toNat_size, Prefix.toNat_last, Prefix.first]
    omega
  contains_iff := Prefix.contains_iff_subset
  overlaps_iff := Prefix.overlaps_iff_inter_nonempty
  nested h := Prefix.overlaps_iff.mp (Prefix.overlaps_iff_inter_nonempty.mpr h)
  never_partly := classify_ne_partly
  disjoint_iff := classify_eq_none_iff.trans Prefix.disjoint_addresses_iff.symm
  superset_iff := classify_eq_contains_iff.trans Prefix.contains_iff_subset
  ssubset_iff := classify_eq_containedBy_iff
  antisymm := Prefix.contains_antisymm
  trans _ := Prefix.contains_trans
  ordered := Prefix.order_of_contains

end AddressPlan
