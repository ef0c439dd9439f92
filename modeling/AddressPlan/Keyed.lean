/-!
# Rows in key order

A collection of rows with one row for each key, kept in ascending order of the keys. Two such
collections with the same rows are equal, and listing one is reading off its rows.
-/
namespace AddressPlan

variable {κ α : Type} [LT κ]

section Insertion

variable [DecidableLT κ]

/-- Puts a row at its place, in place of the row with the same key if there is one. -/
def insertRow (key : α → κ) (row : α) : List α → List α
  | [] => [row]
  | r :: rs =>
    if key row < key r then row :: r :: rs
    else if key r < key row then r :: insertRow key row rs
    else row :: rs

theorem mem_of_mem_insertRow {key : α → κ} {row x : α} {rows : List α}
    (h : x ∈ insertRow key row rows) : x = row ∨ x ∈ rows := by
  induction rows with
  | nil => simpa [insertRow] using h
  | cons r rs ih =>
    unfold insertRow at h
    split at h
    · simpa using h
    · split at h
      · rcases List.mem_cons.1 h with rfl | h
        · simp
        · rcases ih h with rfl | h <;> simp [*]
      · rcases List.mem_cons.1 h with rfl | h <;> simp [*]

theorem insertRow_ascending [LE κ] [Std.IsLinearOrder κ] [Std.LawfulOrderLT κ]
    {key : α → κ} {row : α} {rows : List α} (h : rows.Pairwise (key · < key ·)) :
    (insertRow key row rows).Pairwise (key · < key ·) := by
  induction rows with
  | nil => simp [insertRow]
  | cons r rs ih =>
    obtain ⟨hr, hrs⟩ := List.pairwise_cons.1 h
    unfold insertRow
    split
    · next hlt =>
      refine List.pairwise_cons.2 ⟨fun x hx => ?_, h⟩
      rcases List.mem_cons.1 hx with rfl | hx
      · exact hlt
      · exact Std.lt_trans hlt (hr x hx)
    · next hge =>
      split
      · next hlt =>
        refine List.pairwise_cons.2 ⟨fun x hx => ?_, ih hrs⟩
        rcases mem_of_mem_insertRow hx with rfl | hx
        · exact hlt
        · exact hr x hx
      · next hle =>
        have heq : key r = key row := Std.le_antisymm (Std.not_lt.1 hge) (Std.not_lt.1 hle)
        exact List.pairwise_cons.2 ⟨fun x hx => heq ▸ hr x hx, hrs⟩

end Insertion

/-- Rows with pairwise distinct keys, in ascending order of the keys. -/
structure Keyed (κ : Type) [LT κ] {α : Type} (key : α → κ) where
  rows : List α
  ascending : rows.Pairwise (key · < key ·)

namespace Keyed

variable {key : α → κ}

@[ext] theorem ext {s t : Keyed κ key} (h : s.rows = t.rows) : s = t := by
  cases s; cases t; cases h; rfl

instance [DecidableEq α] : DecidableEq (Keyed κ key) := fun s t =>
  if h : s.rows = t.rows then .isTrue (ext h) else .isFalse fun e => h (e ▸ rfl)

def empty : Keyed κ key := ⟨[], .nil⟩

instance : Inhabited (Keyed κ key) := ⟨empty⟩

def isEmpty (s : Keyed κ key) : Bool := s.rows.isEmpty

def size (s : Keyed κ key) : Nat := s.rows.length

def find? [DecidableEq κ] (s : Keyed κ key) (k : κ) : Option α :=
  s.rows.find? (key · = k)

variable [DecidableLT κ] [LE κ] [Std.IsLinearOrder κ] [Std.LawfulOrderLT κ]

def insert (s : Keyed κ key) (row : α) : Keyed κ key :=
  ⟨insertRow key row s.rows, insertRow_ascending s.ascending⟩

/-- All of the rows; of rows with equal keys the last one stays. -/
def ofList (rows : List α) : Keyed κ key :=
  rows.foldl insert empty

/-- The rows of both; a row of `t` wins over a row of `s` with the same key. -/
def union (s t : Keyed κ key) : Keyed κ key :=
  t.rows.foldl insert s

end Keyed

abbrev Named (α : Type) : Type := Keyed String (Prod.fst : String × α → String)

end AddressPlan
