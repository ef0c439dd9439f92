import Mathlib.Data.List.Nodup
import Mathlib.Data.List.Perm.Basic
/-!
# Sorting by a key

A list in ascending order of a key is determined by its runs of equal keys. Sorting leaves these
runs as they are, so it commutes with dropping elements, and where keys are distinct it forgets the
order in which the elements were given.
-/
namespace AddressPlan

variable {α : Type} {key : α → UInt64} {xs ys : List α}

/-- The list in ascending order of a key; elements with equal keys keep their order. -/
def sortByKey (key : α → UInt64) (xs : List α) : List α :=
  xs.mergeSort fun a b => key a ≤ key b

theorem sortByKey_perm (key : α → UInt64) (xs : List α) : (sortByKey key xs).Perm xs :=
  List.mergeSort_perm _ _

section Order

variable (key)

private theorem keyLe_trans (a b c : α) (hab : decide (key a ≤ key b) = true)
    (hbc : decide (key b ≤ key c) = true) : decide (key a ≤ key c) = true :=
  decide_eq_true (Std.le_trans (of_decide_eq_true hab) (of_decide_eq_true hbc))

private theorem keyLe_total (a b : α) :
    (decide (key a ≤ key b) || decide (key b ≤ key a)) = true := by
  simpa using Std.le_total

theorem sortByKey_ascending (xs : List α) :
    (sortByKey key xs).Pairwise fun a b => key a ≤ key b :=
  (List.pairwise_mergeSort (keyLe_trans key) (keyLe_total key) xs).imp of_decide_eq_true

end Order

theorem sortByKey_of_ascending (h : xs.Pairwise (key · < key ·)) : sortByKey key xs = xs :=
  List.mergeSort_of_pairwise (h.imp fun hlt => decide_eq_true (Std.le_of_lt hlt))

theorem map_sortByKey {f : α → α} (hf : ∀ x, key (f x) = key x) (xs : List α) :
    (sortByKey key xs).map f = sortByKey key (xs.map f) := by
  refine List.map_mergeSort fun a _ b _ => ?_
  rw [hf, hf]

theorem filter_key_sortByKey (key : α → UInt64) (xs : List α) (k : UInt64) :
    (sortByKey key xs).filter (key · = k) = xs.filter (key · = k) := by
  have hequal : (xs.filter (key · = k)).Pairwise fun a b => decide (key a ≤ key b) = true := by
    refine List.pairwise_of_forall_mem_list fun a ha b hb => ?_
    have hka := of_decide_eq_true (List.mem_filter.mp ha).2
    have hkb := of_decide_eq_true (List.mem_filter.mp hb).2
    exact decide_eq_true (hka.trans hkb.symm ▸ Std.le_refl _)
  have hsub : (xs.filter (key · = k)).Sublist (sortByKey key xs) :=
    List.sublist_mergeSort (keyLe_trans key) (keyLe_total key) hequal List.filter_sublist
  have hkept := hsub.filter (key · = k)
  rw [List.filter_filter] at hkept
  simp only [Bool.and_self] at hkept
  exact (hkept.eq_of_length ((sortByKey_perm key xs).filter _).length_eq.symm).symm

private theorem mem_of_filter_key (h : ∀ k, xs.filter (key · = k) = ys.filter (key · = k)) {x : α}
    (hx : x ∈ xs) : x ∈ ys := by
  have hmem : x ∈ xs.filter (key · = key x) := List.mem_filter.mpr ⟨hx, decide_eq_true rfl⟩
  rw [h] at hmem
  exact (List.mem_filter.mp hmem).1

private theorem eq_of_ascending_of_filter_key (hx : xs.Pairwise fun a b => key a ≤ key b)
    (hy : ys.Pairwise fun a b => key a ≤ key b)
    (h : ∀ k, xs.filter (key · = k) = ys.filter (key · = k)) : xs = ys := by
  induction hx generalizing ys with
  | nil => exact (List.eq_nil_iff_forall_not_mem.mpr fun y hmem =>
      absurd (mem_of_filter_key (fun k => (h k).symm) hmem) List.not_mem_nil).symm
  | @cons x xs hleast _ ih =>
    cases hy with
    | nil => exact absurd (mem_of_filter_key h List.mem_cons_self) List.not_mem_nil
    | @cons y ys hleast' hys =>
      -- both heads have the least key, and they are the first ones that have it
      have hyx : key y ≤ key x := by
        rcases List.mem_cons.mp (mem_of_filter_key h List.mem_cons_self) with rfl | hmem
        · exact Std.le_refl _
        · exact hleast' x hmem
      have hxy : key x ≤ key y := by
        rcases List.mem_cons.mp (mem_of_filter_key (fun k => (h k).symm) List.mem_cons_self) with
          rfl | hmem
        · exact Std.le_refl _
        · exact hleast y hmem
      have hkey : key x = key y := Std.le_antisymm hxy hyx
      have hheads := h (key y)
      rw [List.filter_cons_of_pos (by simpa using hkey),
        List.filter_cons_of_pos (by simp)] at hheads
      obtain rfl : x = y := (List.cons.inj hheads).1
      refine congrArg (x :: ·) (ih hys fun k => ?_)
      have hk := h k
      by_cases hkx : key x = k
      · rw [List.filter_cons_of_pos (by simpa using hkx),
          List.filter_cons_of_pos (by simpa using hkx)] at hk
        exact (List.cons.inj hk).2
      · rwa [List.filter_cons_of_neg (by simpa using hkx),
          List.filter_cons_of_neg (by simpa using hkx)] at hk

theorem filter_sortByKey (key : α → UInt64) (keep : α → Bool) (xs : List α) :
    (sortByKey key xs).filter keep = sortByKey key (xs.filter keep) := by
  refine eq_of_ascending_of_filter_key ((sortByKey_ascending key xs).filter _)
    (sortByKey_ascending key _) fun k => ?_
  rw [filter_key_sortByKey, List.filter_comm, filter_key_sortByKey, List.filter_comm]

theorem sortByKey_congr (hperm : xs.Perm ys) (hnodup : (xs.map key).Nodup) :
    sortByKey key xs = sortByKey key ys := by
  have hsame : (sortByKey key xs).Perm (sortByKey key ys) :=
    (sortByKey_perm key xs).trans (hperm.trans (sortByKey_perm key ys).symm)
  refine hsame.eq_of_pairwise ?_ (sortByKey_ascending key xs) (sortByKey_ascending key ys)
  intro a b ha hb hab hba
  have hbx : b ∈ xs := hperm.mem_iff.mpr ((sortByKey_perm key ys).mem_iff.mp hb)
  exact List.inj_on_of_nodup_map hnodup ((sortByKey_perm key xs).mem_iff.mp ha) hbx
    (Std.le_antisymm hab hba)

end AddressPlan
