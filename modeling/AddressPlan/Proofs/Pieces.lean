import Mathlib.Algebra.Order.Floor.Div
/-!
# Lists in pieces

A list is the pieces of one width that it is cut into, put together again. The last piece may be
shorter than the others, and there is nothing behind it.
-/
namespace AddressPlan

variable {α : Type} {width : Nat}

theorem flatMap_pieces (xs : List α) (width count : Nat) :
    ((List.range count).flatMap fun i => (xs.drop (i * width)).take width) =
      xs.take (count * width) := by
  induction count with
  | zero => simp
  | succ count ih =>
    rw [List.range_succ, List.flatMap_append, ih, List.flatMap_singleton, Nat.succ_mul,
      List.take_add]

theorem length_le_of_ceilDiv_le {xs : List α} {count : Nat} (hwidth : 0 < width)
    (hcount : xs.length ⌈/⌉ width ≤ count) : xs.length ≤ count * width := by
  rw [Nat.mul_comm]
  exact (ceilDiv_le_iff_le_mul hwidth).mp hcount

theorem flatMap_allPieces (xs : List α) (hwidth : 0 < width) :
    ((List.range (xs.length ⌈/⌉ width)).flatMap fun i => (xs.drop (i * width)).take width) =
      xs := by
  rw [flatMap_pieces]
  exact List.take_of_length_le (length_le_of_ceilDiv_le hwidth (Nat.le_refl _))

end AddressPlan
