import Mathlib.Data.List.Sort
import AddressPlan.Prefix.Index
/-!
# Binary search and runs

On an array whose first part passes a test and whose rest fails it, binary search finds the border
and a run taken from there is a filter. Dropping repetitions from a sorted list leaves each element
once.
-/
namespace AddressPlan

section Searching

variable {α : Type} {p before keep : α → Bool} {xs : List α}

/-- The test holds on a first part of the list and nowhere behind it. -/
def HoldsFirst (p : α → Bool) (xs : List α) : Prop :=
  xs.Pairwise fun a b => p b = true → p a = true

private theorem takeWhile_eq_filter (h : HoldsFirst p xs) : xs.takeWhile p = xs.filter p := by
  induction xs with
  | nil => rfl
  | cons x xs ih =>
    obtain ⟨hx, hxs⟩ := List.pairwise_cons.mp h
    by_cases hp : p x = true
    · rw [List.takeWhile_cons_of_pos hp, List.filter_cons_of_pos hp, ih hxs]
    · rw [List.takeWhile_cons_of_neg hp, List.filter_cons_of_neg hp, eq_comm,
        List.filter_eq_nil_iff]
      exact fun y hy hpy => hp (hx y hy hpy)

private theorem dropWhile_eq_filter (h : HoldsFirst p xs) : xs.dropWhile p = xs.filter (!p ·) := by
  induction xs with
  | nil => rfl
  | cons x xs ih =>
    obtain ⟨hx, hxs⟩ := List.pairwise_cons.mp h
    by_cases hp : p x = true
    · rw [List.dropWhile_cons_of_pos hp, List.filter_cons_of_neg (by simp [hp]), ih hxs]
    · rw [List.dropWhile_cons_of_neg hp, eq_comm, List.filter_eq_self]
      intro y hy
      rcases List.mem_cons.mp hy with rfl | hy
      · simpa using hp
      · simpa using fun hpy => hp (hx y hy hpy)

private theorem holds_iff_lt_border (h : HoldsFirst p xs) {i : Nat} {x : α} (hx : xs[i]? = some x) :
    p x = true ↔ i < (xs.takeWhile p).length := by
  induction xs generalizing i with
  | nil => simp at hx
  | cons y ys ih =>
    obtain ⟨hy, hys⟩ := List.pairwise_cons.mp h
    by_cases hp : p y = true
    · rw [List.takeWhile_cons_of_pos hp]
      cases i with
      | zero =>
        obtain rfl : y = x := by simpa using hx
        simp [hp]
      | succ i =>
        rw [ih hys (by simpa using hx), List.length_cons, Nat.add_lt_add_iff_right]
    · rw [List.takeWhile_cons_of_neg hp]
      have hmem : x ∈ y :: ys := List.mem_of_getElem? hx
      rcases List.mem_cons.mp hmem with rfl | hmem
      · simp [hp]
      · simpa using fun hpx => hp (hy x hmem hpx)

/-- The search keeps the border between its two bounds. -/
private theorem narrow_eq {xs : Array α} (h : HoldsFirst before xs.toList) {fuel lo hi : Nat}
    (hlo : lo ≤ (xs.toList.takeWhile before).length)
    (hhi : (xs.toList.takeWhile before).length ≤ hi) (hsize : hi ≤ xs.size)
    (hfuel : hi - lo ≤ fuel) :
    narrow before xs fuel lo hi = (xs.toList.takeWhile before).length := by
  induction fuel generalizing lo hi with
  | zero =>
    rw [narrow]
    omega
  | succ fuel ih =>
    unfold narrow
    by_cases hlt : lo < hi
    · have hmid : (lo + hi) / 2 < xs.size := by omega
      have hx : xs[(lo + hi) / 2]? = some xs[(lo + hi) / 2] := Array.getElem?_eq_getElem hmid
      have hborder := holds_iff_lt_border h (i := (lo + hi) / 2) (x := xs[(lo + hi) / 2])
        (by rw [Array.getElem?_toList, hx])
      simp only [hlt, if_true, hx]
      split
      · next hb =>
        have := hborder.mp hb
        exact ih (by omega) hhi hsize (by omega)
      · next hb =>
        have : ¬(lo + hi) / 2 < (xs.toList.takeWhile before).length :=
          fun hlt => hb (hborder.mpr hlt)
        exact ih hlo (by omega) (by omega) (by omega)
    · rw [if_neg hlt]
      omega

private theorem partitionPoint_eq {xs : Array α} (h : HoldsFirst before xs.toList) :
    partitionPoint before xs = (xs.toList.takeWhile before).length := by
  have hlen : (xs.toList.takeWhile before).length ≤ xs.size :=
    (List.takeWhile_prefix _).length_le
  exact narrow_eq h (Nat.zero_le _) hlen (Nat.le_refl _) (by omega)

private theorem runFrom_eq (keep : α → Bool) (xs : Array α) (fuel i : Nat) :
    runFrom keep xs fuel i = ((xs.toList.drop i).take fuel).takeWhile keep := by
  induction fuel generalizing i with
  | zero => simp [runFrom]
  | succ fuel ih =>
    unfold runFrom
    by_cases hi : i < xs.size
    · rw [Array.getElem?_eq_getElem hi, List.drop_eq_getElem_cons (by simpa using hi)]
      simp only [List.take_succ_cons, List.takeWhile_cons, Array.getElem_toList, ih]
    · rw [Array.getElem?_eq_none (by omega), List.drop_eq_nil_of_le (by simpa using hi)]
      simp

theorem runFrom_partitionPoint {xs : Array α} (hb : HoldsFirst before xs.toList)
    (hk : HoldsFirst keep (xs.toList.filter (!before ·))) :
    runFrom keep xs xs.size (partitionPoint before xs) =
      xs.toList.filter fun x => !before x && keep x := by
  have hdrop : xs.toList.drop (xs.toList.takeWhile before).length = xs.toList.dropWhile before := by
    conv_lhs => rw [← List.takeWhile_append_dropWhile (p := before) (l := xs.toList)]
    rw [List.drop_left' (by rw [List.takeWhile_append_dropWhile])]
  rw [runFrom_eq, partitionPoint_eq hb, hdrop, List.take_of_length_le, dropWhile_eq_filter hb,
    takeWhile_eq_filter hk, List.filter_filter]
  · simp only [Bool.and_comm]
  · exact (List.dropWhile_suffix _).length_le

theorem binarySearch_eq {xs : List Nat} (h : xs.Pairwise (· < ·)) (x : Nat) :
    binarySearch xs.toArray x = decide (x ∈ xs) := by
  have hfirst : HoldsFirst (fun y => decide (y < x)) xs :=
    h.imp fun {a b} hab hb => decide_eq_true (Nat.lt_trans hab (of_decide_eq_true hb))
  have hborder : partitionPoint (· < x) xs.toArray = (xs.takeWhile fun y => y < x).length :=
    partitionPoint_eq hfirst
  rw [binarySearch, hborder, List.getElem?_toArray, Bool.eq_iff_iff, beq_iff_eq, decide_eq_true_iff]
  refine ⟨List.mem_of_getElem?, fun hmem => ?_⟩
  obtain ⟨i, hi, rfl⟩ := List.getElem_of_mem hmem
  have hbelow := holds_iff_lt_border hfirst (List.getElem?_eq_getElem hi)
  have hle : (xs.takeWhile fun y => y < xs[i]).length ≤ i := by
    simpa using hbelow
  rcases Nat.lt_or_eq_of_le hle with hlt | heq
  · -- what stands at the border is not smaller, but comes before
    have hborder := holds_iff_lt_border hfirst (List.getElem?_eq_getElem (Nat.lt_trans hlt hi))
    have hless := List.pairwise_iff_getElem.mp h _ _ (Nat.lt_trans hlt hi) hi hlt
    simp [hless] at hborder
  · rw [heq]
    exact List.getElem?_eq_getElem hi

end Searching

section Repetitions

private theorem eraseRepsBy_loop (a : Nat) (xs acc : List Nat) :
    List.eraseRepsBy.loop (· == ·) a xs acc = acc.reverse ++ (a :: xs).eraseReps := by
  induction xs generalizing a acc with
  | nil => simp [List.eraseRepsBy.loop, List.eraseReps, List.eraseRepsBy]
  | cons x xs ih =>
    change _ = acc.reverse ++ List.eraseRepsBy.loop (· == ·) a (x :: xs) []
    unfold List.eraseRepsBy.loop
    split
    · rw [ih, ih]
      simp
    · rw [ih, ih]
      simp

private theorem eraseReps_cons_cons (a b : Nat) (xs : List Nat) : (a :: b :: xs).eraseReps =
    if a = b then (a :: xs).eraseReps else a :: (b :: xs).eraseReps := by
  change List.eraseRepsBy.loop (· == ·) a (b :: xs) [] = _
  unfold List.eraseRepsBy.loop
  by_cases h : a = b
  · subst h
    simp [eraseRepsBy_loop]
  · have hbeq : (a == b) = false := by simpa using h
    simp [h, hbeq, eraseRepsBy_loop]

theorem mem_eraseReps {i : Nat} (xs : List Nat) : i ∈ xs.eraseReps ↔ i ∈ xs := by
  match xs with
  | [] => rfl
  | [a] => rfl
  | a :: b :: xs =>
    rw [eraseReps_cons_cons]
    split
    · next h =>
      subst h
      rw [mem_eraseReps (a :: xs)]
      simp
    · rw [List.mem_cons, mem_eraseReps (b :: xs), List.mem_cons (a := i) (b := a)]

theorem eraseReps_ascending (xs : List Nat) (h : xs.Pairwise (· ≤ ·)) :
    xs.eraseReps.Pairwise (· < ·) := by
  match xs with
  | [] => exact .nil
  | [a] => exact List.pairwise_singleton _ _
  | a :: b :: xs =>
    obtain ⟨ha, hbs⟩ := List.pairwise_cons.mp h
    obtain ⟨hb, hxs⟩ := List.pairwise_cons.mp hbs
    rw [eraseReps_cons_cons]
    split
    · exact eraseReps_ascending (a :: xs)
        (List.pairwise_cons.mpr ⟨fun x hx => ha x (List.mem_cons_of_mem _ hx), hxs⟩)
    · next hne =>
      refine List.pairwise_cons.mpr ⟨fun x hx => ?_, eraseReps_ascending (b :: xs) hbs⟩
      have hab := ha b List.mem_cons_self
      rcases List.mem_cons.mp ((mem_eraseReps _).mp hx) with rfl | hx
      · omega
      · have := hb x hx
        omega

end Repetitions

theorem eq_of_ascending {xs ys : List Nat} (hx : xs.Pairwise (· < ·)) (hy : ys.Pairwise (· < ·))
    (h : ∀ i, i ∈ xs ↔ i ∈ ys) : xs = ys := by
  have hperm : xs.Perm ys :=
    (List.perm_ext_iff_of_nodup (hx.imp Nat.ne_of_lt) (hy.imp Nat.ne_of_lt)).mpr h
  exact hperm.eq_of_pairwise (fun a b _ _ hab hba => absurd hab (Nat.lt_asymm hba)) hx hy

end AddressPlan
