import AddressPlan.Proofs.Prefix.Addresses
import AddressPlan.Proofs.Prefix.Search
import AddressPlan.Proofs.Prefix.Table
/-!
# Answers of the index

The index of a list of prefixes answers with exactly the positions that a scan of the list would
find. The scan is `positions`; sorting, searching and the candidates of each length disappear
behind the three equations at the end.
-/
namespace AddressPlan.Prefix

def positions (keep : Prefix → Bool) (ps : List Prefix) : List Nat :=
  (List.range ps.length).filter fun i => ps[i]?.any keep

private theorem mem_positions {keep : Prefix → Bool} {ps : List Prefix} {i : Nat} :
    i ∈ positions keep ps ↔ ∃ p, ps[i]? = some p ∧ keep p = true := by
  simp only [positions, List.mem_filter, List.mem_range, Option.any_eq_true]
  constructor
  · exact fun h => h.2
  · rintro ⟨p, hp, hk⟩
    exact ⟨(List.getElem?_eq_some_iff.mp hp).1, p, hp, hk⟩

theorem positions_ascending (keep : Prefix → Bool) (ps : List Prefix) :
    (positions keep ps).Pairwise (· < ·) :=
  List.pairwise_lt_range.filter _

namespace Index

section Entries

theorem order_eq_gt {p q : Prefix} : p.order q = .gt ↔
    q.network < p.network ∨ p.network = q.network ∧ q.length < p.length := by
  simp only [order, Ordering.then_eq_gt, Std.compare_eq_gt, Std.LawfulEqOrd.compare_eq_iff_eq]

private theorem entry_le_iff {a b : Entry} : a.le b = true ↔
    a.block.network.toNat < b.block.network.toNat ∨
    a.block.network.toNat = b.block.network.toNat ∧ (a.block.length < b.block.length ∨
      a.block.length = b.block.length ∧ a.position ≤ b.position) := by
  have hgt : a.le b = true ↔
      ¬(a.block.order b.block).then (compare a.position b.position) = .gt := by
    simp only [Entry.le, bne_iff_ne, ne_eq]
  rw [hgt, Ordering.then_eq_gt, order_eq_gt, order, Ordering.then_eq_eq]
  simp only [Std.LawfulEqOrd.compare_eq_iff_eq, Std.compare_eq_gt, UInt32.lt_iff_toNat_lt,
    ← UInt32.toNat_inj]
  omega

variable (ps : List Prefix)

private theorem mem_entries {e : Entry} :
    e ∈ (ofList ps).entries.toList ↔ ps[e.position]? = some e.block := by
  simp only [ofList, List.mem_mergeSort, List.mem_map, Prod.exists]
  constructor
  · rintro ⟨p, i, hmem, rfl⟩
    exact List.mem_zipIdx_iff_getElem?.mp hmem
  · intro h
    exact ⟨e.block, e.position, List.mem_zipIdx_iff_getElem?.mpr h, rfl⟩

private theorem entries_nodup : (ofList ps).entries.toList.Nodup := by
  refine (List.mergeSort_perm _ _).nodup_iff.mpr ?_
  refine List.Nodup.of_map Entry.position ?_
  have hposition : Entry.position ∘ (fun x : Prefix × Nat => Entry.mk x.1 x.2) = Prod.snd := rfl
  rw [List.map_map, hposition, List.zipIdx_map_snd]
  exact List.nodup_range' ..

private theorem entries_sorted : (ofList ps).entries.toList.Pairwise fun a b => a.le b = true := by
  refine List.pairwise_mergeSort ?_ ?_ _
  · intro a b c
    simp only [entry_le_iff]
    omega
  · intro a b
    simp only [Bool.or_eq_true, entry_le_iff]
    omega

private theorem ascending_eq_positions {es : List Entry} {keep : Prefix → Bool} (hnodup : es.Nodup)
    (hmem : ∀ e, e ∈ es ↔ ps[e.position]? = some e.block ∧ keep e.block = true) :
    (es.map Entry.position).mergeSort = positions keep ps := by
  have hinj : (es.map Entry.position).Nodup := by
    refine hnodup.map_on ?_
    intro a ha b hb hab
    have ha' := ((hmem a).mp ha).1
    have hb' := ((hmem b).mp hb).1
    rw [hab, hb'] at ha'
    cases a; cases b
    simp_all
  have hsorted : (es.map Entry.position).mergeSort.Pairwise (· ≤ ·) :=
    List.pairwise_mergeSort' (· ≤ ·) _
  refine eq_of_ascending ?_ (positions_ascending keep ps) ?_
  · have hnd := (List.mergeSort_perm (es.map Entry.position) (· ≤ ·)).nodup_iff.mpr hinj
    exact (hsorted.and hnd).imp fun h => Nat.lt_of_le_of_ne h.1 h.2
  · intro i
    simp only [List.mem_mergeSort, List.mem_map, mem_positions]
    constructor
    · rintro ⟨e, he, rfl⟩
      exact ⟨e.block, (hmem e).mp he⟩
    · rintro ⟨p, hp⟩
      exact ⟨⟨p, i⟩, (hmem _).mpr hp, rfl⟩

end Entries

variable (ps : List Prefix) (p : Prefix)

private theorem exact_ofList : ((ofList ps).exact.find? p).getD [] =
    ((ofList ps).entries.toList.filter fun e => e.block = p).map Entry.position :=
  (Table.find?_fill _ _).trans (by rw [Table.find?_empty, Option.getD_none, List.nil_append]; rfl)

/-- The entries that lie in `p` are found in the run between its two ends. -/
private theorem inside_eq_filter :
    (((ofList ps).run (fun e => e.block.first < p.first) (fun e => e.block.first ≤ p.last)).filter
      fun e => p.contains e.block) =
    (ofList ps).entries.toList.filter fun e => p.contains e.block := by
  have hbefore : HoldsFirst (fun e : Entry => decide (e.block.first < p.first))
      (ofList ps).entries.toList := by
    refine (entries_sorted ps).imp fun {a b} hab => ?_
    simp only [first, decide_eq_true_eq, entry_le_iff, UInt32.lt_iff_toNat_lt] at *
    omega
  have hkeep : HoldsFirst (fun e : Entry => decide (e.block.first ≤ p.last))
      ((ofList ps).entries.toList.filter fun e => !decide (e.block.first < p.first)) := by
    refine ((entries_sorted ps).filter _).imp fun {a b} hab => ?_
    simp only [first, decide_eq_true_eq, entry_le_iff, UInt32.le_iff_toNat_le] at *
    omega
  rw [run, size, runFrom_partitionPoint hbefore hkeep, List.filter_filter]
  refine List.filter_congr fun e _ => ?_
  by_cases hc : p.contains e.block = true
  · have hlo := first_le_of_contains hc
    have hhi := first_le_last_of_contains hc
    simp [hc, hhi, hlo]
  · simp [hc]

private def around (len : Nat) : List Entry :=
  (ofList ps).entries.toList.filter fun e => e.block = p.widen len

private theorem candidates_eq (lens : List Nat) :
    (lens.filterMap fun len => (ofList ps).exact.find? (p.widen len)).flatten =
      (lens.flatMap (around ps p)).map Entry.position := by
  induction lens with
  | nil => rfl
  | cons len lens ih =>
    rw [List.flatMap_cons, List.map_append, ← ih, around, ← exact_ofList, List.filterMap_cons]
    cases (ofList ps).exact.find? (p.widen len) <;> rfl

theorem containing_ofList : (ofList ps).containing p = positions (·.contains p) ps := by
  rw [containing, candidates_eq]
  refine ascending_eq_positions ps ?_ ?_
  · refine List.nodup_flatMap.mpr ⟨fun len _ => (entries_nodup ps).filter _, ?_⟩
    -- blocks of different lengths around `p` differ
    refine List.nodup_range.imp_of_mem fun {a b} ha hb hab e hea heb => ?_
    have hla : e.block.length = min a p.length := by
      rw [of_decide_eq_true (List.mem_filter.mp hea).2, length_widen]
    have hlb : e.block.length = min b p.length := by
      rw [of_decide_eq_true (List.mem_filter.mp heb).2, length_widen]
    have ha' := List.mem_range.mp ha
    have hb' := List.mem_range.mp hb
    omega
  · intro e
    simp only [List.mem_flatMap, around, List.mem_filter, mem_entries, decide_eq_true_eq,
      contains_iff_widen]
    constructor
    · rintro ⟨len, hlen, hmem, hblock⟩
      have hle := List.mem_range.mp hlen
      have hl : e.block.length = len := by
        rw [hblock, length_widen]
        omega
      exact ⟨hmem, by omega, by rw [hl, hblock]⟩
    · rintro ⟨hmem, hle, hblock⟩
      exact ⟨e.block.length, List.mem_range.mpr (by omega), hmem, hblock.symm⟩

theorem containedIn_ofList : (ofList ps).containedIn p = positions p.contains ps := by
  have hinside := inside_eq_filter ps p
  refine (congrArg (fun es => (List.map Entry.position es).mergeSort) hinside).trans ?_
  refine ascending_eq_positions ps ((entries_nodup ps).filter _) fun e => ?_
  rw [List.mem_filter, mem_entries]

theorem overlapping_ofList : (ofList ps).overlapping p = positions p.overlaps ps := by
  have hsorted : ((ofList ps).containing p ++ (ofList ps).containedIn p).mergeSort.Pairwise
      (· ≤ ·) :=
    List.pairwise_mergeSort' (· ≤ ·) _
  refine eq_of_ascending (eraseReps_ascending _ hsorted) (positions_ascending _ _) fun i => ?_
  rw [overlapping, mem_eraseReps, List.mem_mergeSort, List.mem_append, containing_ofList,
    containedIn_ofList]
  simp only [mem_positions, overlaps_iff]
  constructor
  · rintro (⟨q, hq, h⟩ | ⟨q, hq, h⟩)
    · exact ⟨q, hq, Or.inr h⟩
    · exact ⟨q, hq, Or.inl h⟩
  · rintro ⟨q, hq, h | h⟩
    · exact Or.inr ⟨q, hq, h⟩
    · exact Or.inl ⟨q, hq, h⟩

theorem mem_overlapping_ofList {i : Nat} :
    i ∈ (ofList ps).overlapping p ↔ ∃ q, ps[i]? = some q ∧ p.overlaps q = true := by
  rw [overlapping_ofList, mem_positions]

/-- An answer has exactly the positions of the prefixes in question, in ascending order and each
one once. -/
structure Answers (ps : List Prefix) (wanted : Prefix → Prop) (found : List Nat) : Prop where
  ascending : found.Pairwise (· < ·)
  mem_iff : ∀ i, i ∈ found ↔ ∃ q, ps[i]? = some q ∧ wanted q

private theorem answers_positions {keep : Prefix → Bool} {wanted : Prefix → Prop}
    (h : ∀ q, keep q = true ↔ wanted q) : Answers ps wanted (positions keep ps) where
  ascending := positions_ascending keep ps
  mem_iff i := by simp only [mem_positions, h]

/-- Every answer of the index is that of a scan of the list. -/
theorem answers_ofList :
    Answers ps (fun q => q.contains p = true) ((ofList ps).containing p) ∧
    Answers ps (fun q => p.contains q = true) ((ofList ps).containedIn p) ∧
    Answers ps (fun q => ∃ a, q.containsAddress a = true ∧ p.containsAddress a = true)
      ((ofList ps).overlapping p) := by
  rw [containing_ofList, containedIn_ofList, overlapping_ofList]
  refine ⟨answers_positions ps fun q => Iff.rfl, answers_positions ps fun q => Iff.rfl,
    answers_positions ps fun q => ?_⟩
  rw [overlaps_comm]
  exact overlaps_iff_exists_address

end Index
end AddressPlan.Prefix
