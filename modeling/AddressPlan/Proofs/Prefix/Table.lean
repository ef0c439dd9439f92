import Mathlib.Data.List.Basic
import AddressPlan.Prefix.Index
/-!
# What a table finds

A table that is filled from a list of entries finds under a block the positions of the entries with
that block, in the order of the list.
-/
namespace AddressPlan.Prefix

variable {p q : Prefix} {i : Nat}

private theorem lookup_cons_of_ne {α : Type} {row : Prefix × α} {rows : List (Prefix × α)}
    (h : q ≠ row.1) : (row :: rows).lookup q = rows.lookup q := by
  rw [List.lookup_cons, beq_false_of_ne h]

private theorem lookup_cons_self {α : Type} {a : α} {rows : List (Prefix × α)} :
    ((q, a) :: rows).lookup q = some a := by
  rw [List.lookup_cons, beq_self_eq_true]

private theorem Chain.lookup_push (chain : Chain) : (chain.push p i).lookup q =
    if q = p then some ((chain.lookup p).getD [] ++ [i]) else chain.lookup q := by
  induction chain with
  | nil =>
    split
    · next h =>
      subst h
      exact lookup_cons_self
    · next h => exact lookup_cons_of_ne h
  | cons row rest ih =>
    obtain ⟨r, found⟩ := row
    unfold Chain.push
    by_cases hr : r = p
    · subst hr
      rw [if_pos rfl, lookup_cons_self]
      split
      · next h =>
        subst h
        exact lookup_cons_self
      · next h => rw [lookup_cons_of_ne h, lookup_cons_of_ne h]
    · rw [if_neg hr, lookup_cons_of_ne (q := p) (Ne.symm hr)]
      by_cases hq : q = r
      · subst hq
        rw [lookup_cons_self, lookup_cons_self, if_neg hr]
      · rw [lookup_cons_of_ne hq, lookup_cons_of_ne hq, ih]

namespace Table

theorem find?_empty (count : Nat) (p : Prefix) : (empty count).find? p = none := by
  simp [find?, empty]

private theorem find?_push (table : Table) : (table.push p i).find? q =
    if q = p then some ((table.find? p).getD [] ++ [i]) else table.find? q := by
  have hslot : ((table.push p i).slot q : Nat) = table.slot q := by
    simp only [slot, push, Array.size_modify]
  have hchain : (table.push p i).chains[(table.push p i).slot q] =
      if (table.slot p : Nat) = table.slot q then Chain.push p i table.chains[table.slot q]
      else table.chains[table.slot q] := by
    simp only [Fin.getElem_fin, hslot]
    exact Array.getElem_modify _
  rw [find?, hchain]
  by_cases h : q = p
  · subst h
    rw [if_pos rfl, if_pos rfl, Chain.lookup_push, if_pos rfl]
    rfl
  · rw [if_neg h]
    split
    · rw [Chain.lookup_push, if_neg h]
      rfl
    · rfl

/-- Filling a table notes the positions of each block in the order of the entries. -/
theorem find?_fill (entries : List Entry) (table : Table) :
    ((entries.foldl (fun exact e => exact.push e.block e.position) table).find? p).getD [] =
      (table.find? p).getD [] ++
        (entries.filter fun e => e.block = p).map Entry.position := by
  induction entries generalizing table with
  | nil => simp
  | cons e rest ih =>
    rw [List.foldl_cons, ih, find?_push]
    by_cases h : p = e.block
    · simp [h]
    · simp [h, Ne.symm h]

end Table
end AddressPlan.Prefix
