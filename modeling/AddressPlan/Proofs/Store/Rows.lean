import Mathlib.Data.List.Nodup
import AddressPlan.Keyed
/-!
# Rows under keys

What a keyed collection holds after an insertion or a union, read through looking up a key. A row
behind all others is appended and a row with a known key takes the place of the old one.
-/
namespace AddressPlan

variable {κ α : Type} [LT κ] [LE κ] [Std.LawfulOrderLT κ] {key : α → κ}

theorem nodup_of_ascending {rows : List α} (h : rows.Pairwise (key · < key ·)) :
    (rows.map key).Nodup := by
  refine List.pairwise_map.mpr (h.imp fun {a b} hlt heq => ?_)
  rw [heq] at hlt
  exact Std.lt_irrefl hlt

namespace Keyed

variable {s : Keyed κ key} {k : κ} {row : α}

theorem nodup (s : Keyed κ key) : (s.rows.map key).Nodup :=
  nodup_of_ascending s.ascending

variable [DecidableEq κ]

theorem find?_eq_some_iff : s.find? k = some row ↔ row ∈ s.rows ∧ key row = k := by
  constructor
  · intro h
    exact ⟨List.mem_of_find?_eq_some h, by simpa using List.find?_some h⟩
  · rintro ⟨hmem, rfl⟩
    cases h : s.find? (key row) with
    | none =>
      have := List.find?_eq_none.mp h row hmem
      simp at this
    | some found =>
      have hkey : key found = key row := by simpa using List.find?_some h
      rw [List.inj_on_of_nodup_map s.nodup (List.mem_of_find?_eq_some h) hmem hkey]

omit [LE κ] [Std.LawfulOrderLT κ] in
private theorem find?_eq_none_iff : s.find? k = none ↔ ∀ r ∈ s.rows, key r ≠ k := by
  simp [find?]

end Keyed

variable [Std.IsLinearOrder κ]

section Insertion

variable [DecidableLT κ] {row : α} {rows : List α}

private theorem insertRow_of_last (h : ∀ r ∈ rows, key r < key row) :
    insertRow key row rows = rows ++ [row] := by
  induction rows with
  | nil => rfl
  | cons r rs ih =>
    have hr := h r List.mem_cons_self
    unfold insertRow
    rw [if_neg (Std.not_lt.mpr (Std.le_of_lt hr)), if_pos hr,
      ih fun x hx => h x (List.mem_cons_of_mem _ hx), List.cons_append]

theorem mem_insertRow (h : rows.Pairwise (key · < key ·)) {x : α} :
    x ∈ insertRow key row rows ↔ x = row ∨ x ∈ rows ∧ key x ≠ key row := by
  induction rows with
  | nil => simp [insertRow]
  | cons r rs ih =>
    obtain ⟨hr, hrs⟩ := List.pairwise_cons.mp h
    unfold insertRow
    by_cases hlt : key row < key r
    · have hne : ∀ y ∈ r :: rs, key y ≠ key row := by
        intro y hy heq
        rcases List.mem_cons.mp hy with rfl | hy
        · exact Std.lt_irrefl (heq ▸ hlt)
        · exact Std.lt_irrefl (heq ▸ Std.lt_trans hlt (hr y hy))
      rw [if_pos hlt, List.mem_cons]
      exact or_congr_right ⟨fun hx => ⟨hx, hne x hx⟩, And.left⟩
    · by_cases hgt : key r < key row
      · have hne : key r ≠ key row := fun heq => Std.lt_irrefl (heq ▸ hgt)
        rw [if_neg hlt, if_pos hgt, List.mem_cons, ih hrs, List.mem_cons]
        constructor
        · rintro (rfl | hx | ⟨hx, hne'⟩)
          · exact Or.inr ⟨Or.inl rfl, hne⟩
          · exact Or.inl hx
          · exact Or.inr ⟨Or.inr hx, hne'⟩
        · rintro (hx | ⟨rfl | hx, hne'⟩)
          · exact Or.inr (Or.inl hx)
          · exact Or.inl rfl
          · exact Or.inr (Or.inr ⟨hx, hne'⟩)
      · have heq : key r = key row := Std.le_antisymm (Std.not_lt.mp hlt) (Std.not_lt.mp hgt)
        rw [if_neg hlt, if_neg hgt, List.mem_cons, List.mem_cons]
        refine or_congr_right ⟨fun hx => ⟨Or.inr hx, fun hxe => ?_⟩, ?_⟩
        · have hrx := hr x hx
          rw [heq, hxe] at hrx
          exact Std.lt_irrefl hrx
        · rintro ⟨rfl | hx, hne⟩
          · exact absurd heq hne
          · exact hx

omit [Std.LawfulOrderLT κ] [LE κ] [Std.IsLinearOrder κ] in
private theorem eq_or_mem_of_mem_insertRow {x : α} (h : x ∈ insertRow key row rows) :
    x = row ∨ x ∈ rows := by
  induction rows with
  | nil => exact .inl (List.mem_singleton.mp h)
  | cons r rs ih =>
    unfold insertRow at h
    split at h
    · exact List.mem_cons.mp h
    · split at h
      · rcases List.mem_cons.mp h with rfl | h
        · exact .inr List.mem_cons_self
        · exact (ih h).imp_right (List.mem_cons_of_mem r)
      · exact (List.mem_cons.mp h).imp_right (List.mem_cons_of_mem r)

omit [Std.LawfulOrderLT κ] [LE κ] [Std.IsLinearOrder κ] in
theorem pairwise_insertRow {R : α → α → Prop} (h : rows.Pairwise R)
    (hrow : ∀ r ∈ rows, R r row ∧ R row r) : (insertRow key row rows).Pairwise R := by
  induction rows with
  | nil => exact List.pairwise_singleton R row
  | cons r rs ih =>
    obtain ⟨hr, hrs⟩ := List.pairwise_cons.mp h
    obtain ⟨hhead, htail⟩ := List.forall_mem_cons.mp hrow
    unfold insertRow
    split
    · exact List.pairwise_cons.mpr ⟨fun x hx => (hrow x hx).2, h⟩
    · split
      · refine List.pairwise_cons.mpr ⟨fun x hx => ?_, ih hrs htail⟩
        rcases eq_or_mem_of_mem_insertRow hx with rfl | hx
        · exact hhead.1
        · exact hr x hx
      · exact List.pairwise_cons.mpr ⟨fun x hx => (htail x hx).2, hrs⟩

private theorem insertRow_of_mem [DecidableEq κ] (h : rows.Pairwise (key · < key ·)) {old : α}
    (hold : old ∈ rows) (hkey : key old = key row) :
    insertRow key row rows = rows.map fun r => if key r = key row then row else r := by
  induction rows with
  | nil => cases hold
  | cons r rs ih =>
    obtain ⟨hr, hrs⟩ := List.pairwise_cons.mp h
    unfold insertRow
    rcases List.mem_cons.mp hold with rfl | hmem
    · have hrest : (rs.map fun x => if key x = key row then row else x) = rs := by
        refine (List.map_congr_left fun x hx => if_neg fun heq => ?_).trans (List.map_id rs)
        have hlt := hr x hx
        rw [hkey, heq] at hlt
        exact Std.lt_irrefl hlt
      have hirrefl : ¬key row < key row := Std.lt_irrefl
      rw [hkey, if_neg hirrefl, if_neg hirrefl, List.map_cons, if_pos hkey, hrest]
    · have hlt : key r < key row := hkey ▸ hr old hmem
      have hne : key r ≠ key row := fun heq => Std.lt_irrefl (heq ▸ hlt)
      rw [if_neg (Std.not_lt.mpr (Std.le_of_lt hlt)), if_pos hlt, List.map_cons, if_neg hne,
        ih hrs hmem]

private theorem length_insertRow (h : ∀ r ∈ rows, key r ≠ key row) :
    (insertRow key row rows).length = rows.length + 1 := by
  induction rows with
  | nil => rfl
  | cons r rs ih =>
    have hrs := ih fun x hx => h x (List.mem_cons_of_mem _ hx)
    unfold insertRow
    split
    · rfl
    · split
      · rw [List.length_cons, hrs, List.length_cons]
      · next hlt hgt =>
        exact absurd (Std.le_antisymm (Std.not_lt.mp hlt) (Std.not_lt.mp hgt))
          (h r List.mem_cons_self)

end Insertion

namespace Keyed

variable {s t : Keyed κ key} {k : κ} {row : α}

theorem rows_insert_of_last [DecidableLT κ] (h : ∀ r ∈ s.rows, key r < key row) :
    (s.insert row).rows = s.rows ++ [row] :=
  insertRow_of_last h

variable [DecidableEq κ] [DecidableLT κ]

theorem rows_insert_of_find? {old : α} (h : s.find? (key row) = some old) :
    (s.insert row).rows = s.rows.map fun r => if key r = key row then row else r := by
  obtain ⟨hmem, hkey⟩ := find?_eq_some_iff.mp h
  exact insertRow_of_mem s.ascending hmem hkey

theorem find?_insert :
    (s.insert row).find? k = if key row = k then some row else s.find? k := by
  ext r
  rw [find?_eq_some_iff, insert, mem_insertRow s.ascending]
  by_cases hk : key row = k
  · rw [if_pos hk]
    constructor
    · rintro ⟨rfl | ⟨-, hne⟩, hr⟩
      · rfl
      · exact absurd (hr.trans hk.symm) hne
    · intro h
      obtain rfl := Option.some.inj h
      exact ⟨Or.inl rfl, hk⟩
  · rw [if_neg hk, find?_eq_some_iff]
    constructor
    · rintro ⟨rfl | ⟨hmem, -⟩, hr⟩
      · exact absurd hr hk
      · exact ⟨hmem, hr⟩
    · rintro ⟨hmem, hr⟩
      exact ⟨Or.inr ⟨hmem, fun heq => hk (heq.symm.trans hr)⟩, hr⟩

omit [DecidableEq κ] in
theorem mem_foldl_insert {rows : List α} : row ∈ (rows.foldl insert s).rows ↔
    (∃ before after, rows = before ++ row :: after ∧ ∀ r ∈ after, key r ≠ key row) ∨
      row ∈ s.rows ∧ ∀ r ∈ rows, key r ≠ key row := by
  induction rows generalizing s with
  | nil => simp
  | cons r rs ih =>
    rw [List.foldl_cons, ih, insert, mem_insertRow s.ascending, List.forall_mem_cons]
    constructor
    · rintro (⟨before, after, rfl, hafter⟩ | ⟨rfl | ⟨hmem, hne⟩, hrs⟩)
      · exact .inl ⟨r :: before, after, rfl, hafter⟩
      · exact .inl ⟨[], rs, rfl, hrs⟩
      · exact .inr ⟨hmem, hne.symm, hrs⟩
    · rintro (⟨before, after, heq, hafter⟩ | ⟨hmem, hne, hrs⟩)
      · cases before with
        | nil =>
          obtain ⟨rfl, rfl⟩ := List.cons.inj heq
          exact .inr ⟨.inl rfl, hafter⟩
        | cons b before => exact .inl ⟨before, after, (List.cons.inj heq).2, hafter⟩
      · exact .inr ⟨.inr ⟨hmem, hne.symm⟩, hrs⟩

theorem size_insert (h : s.find? (key row) = none) : (s.insert row).size = s.size + 1 :=
  length_insertRow (find?_eq_none_iff.mp h)

private theorem find?_foldl_insert {rows : List α} (h : (rows.map key).Nodup) :
    (rows.foldl insert s).find? k = (rows.find? (key · = k)).or (s.find? k) := by
  induction rows generalizing s with
  | nil => rfl
  | cons r rs ih =>
    obtain ⟨hr, hrs⟩ := List.nodup_cons.mp h
    rw [List.foldl_cons, ih hrs, find?_insert, List.find?_cons]
    by_cases hk : key r = k
    · have hrest : rs.find? (fun x => decide (key x = k)) = none := by
        refine List.find?_eq_none.mpr fun x hx => ?_
        simpa using fun heq : key x = k => hr (List.mem_map.mpr ⟨x, hx, heq.trans hk.symm⟩)
      rw [hrest]
      simp [hk]
    · simp [hk]

theorem find?_ofList {rows : List α} (h : (rows.map key).Nodup) :
    (ofList rows : Keyed κ key).find? k = rows.find? (key · = k) := by
  rw [ofList, find?_foldl_insert h]
  simp [empty, find?]

omit [DecidableEq κ] in
theorem rows_foldl_insert {rows : List α}
    (h : (s.rows ++ rows).Pairwise (key · < key ·)) :
    (rows.foldl insert s).rows = s.rows ++ rows := by
  induction rows generalizing s with
  | nil => simp
  | cons r rs ih =>
    have hlast : ∀ x ∈ s.rows, key x < key r := fun x hx =>
      (List.pairwise_append.mp h).2.2 x hx r List.mem_cons_self
    have hinsert := rows_insert_of_last hlast
    rw [List.foldl_cons, ih (by rw [hinsert]; simpa using h), hinsert]
    simp

omit [DecidableEq κ] in
theorem ofList_rows (s : Keyed κ key) : ofList s.rows = s := by
  refine Keyed.ext ?_
  rw [ofList, rows_foldl_insert (by simpa [empty] using s.ascending)]
  rfl

end Keyed
end AddressPlan
