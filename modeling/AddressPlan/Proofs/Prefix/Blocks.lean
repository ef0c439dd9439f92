import Mathlib.Tactic.Ring
import AddressPlan.Prefix.Basic
/-!
# Blocks of addresses as numbers

A prefix of a length stands for an aligned run of `2 ^ (32 - length)` addresses. The masks and
the tests on the two ends are read here as arithmetic on naturals; later proofs use only the
statements of this module. The main one is that containing a prefix is being the block of one's
own length around it.
-/
namespace AddressPlan

def blockSize (len : Nat) : Nat :=
  2 ^ (32 - len)

theorem blockSize_pos (len : Nat) : 0 < blockSize len :=
  Nat.two_pow_pos _

theorem blockSize_dvd {short long : Nat} (h : short ≤ long) : blockSize long ∣ blockSize short :=
  Nat.pow_dvd_pow 2 (by omega)

private theorem blockSize_le (len : Nat) : blockSize len ≤ 2 ^ 32 :=
  Nat.pow_le_pow_right (by decide) (by omega)

theorem blockSize_eq_mul {short long : Nat} (hle : short ≤ long) (h : long ≤ 32) :
    blockSize short = 2 ^ (long - short) * blockSize long := by
  rw [blockSize, blockSize, ← Nat.pow_add]
  congr 1
  omega

theorem toNat_one_shiftLeft {n : Nat} (h : n < 64) :
    ((1 : UInt64) <<< UInt64.ofNat n).toNat = 2 ^ n := by
  have hlt : 2 ^ n < 2 ^ 64 := Nat.pow_lt_pow_right (by decide) h
  have hplaces : n % 2 ^ 64 % 64 = n := by omega
  rw [UInt64.toNat_shiftLeft, UInt64.toNat_ofNat', hplaces, UInt64.toNat_one, Nat.shiftLeft_eq,
    Nat.one_mul, Nat.mod_eq_of_lt hlt]

theorem toNat_min (a b : UInt64) : (min a b).toNat = min a.toNat b.toNat := by
  rw [Std.min_eq_if, Nat.min_def]
  simp only [UInt64.le_iff_toNat_le]
  split <;> rfl

private theorem toNat_netmask : ∀ len ≤ 32, (netmask len).toNat = 2 ^ 32 - blockSize len := by
  decide

/-- Masking clears what lies behind the start of the aligned block. -/
theorem toNat_and_netmask (a : UInt32) {len : Nat} (h : len ≤ 32) :
    (a &&& netmask len).toNat = a.toNat / blockSize len * blockSize len := by
  have hmask : (netmask len).toNat = 2 ^ 32 - (blockSize len - 1 + 1) := by
    rw [toNat_netmask len h, Nat.sub_add_cancel (blockSize_pos len)]
  rw [UInt32.toNat_and, hmask]
  apply Nat.eq_of_testBit_eq
  intro i
  have hlow : blockSize len - 1 < 2 ^ 32 := by
    have := blockSize_le len
    omega
  rw [Nat.testBit_and, Nat.testBit_two_pow_sub_succ hlow]
  unfold blockSize
  rw [Nat.testBit_two_pow_sub_one, Nat.testBit_mul_two_pow, Nat.testBit_div_two_pow]
  by_cases hi : 32 - len ≤ i
  · by_cases hw : i < 32
    · simp [hi, hw, Nat.sub_add_cancel hi]
    · have hpow : 2 ^ 32 ≤ 2 ^ i := Nat.pow_le_pow_right (by decide) (by omega)
      have ha : a.toNat.testBit i = false :=
        Nat.testBit_lt_two_pow (Nat.lt_of_lt_of_le a.toNat_lt hpow)
      simp [hi, ha, Nat.sub_add_cancel hi]
  · simp [hi, Nat.lt_of_not_le hi]

/-- The aligned block around a number starts at `start` when the number lies behind it and the
block is not yet over. -/
theorem start_eq_iff {size start n : Nat} (hpos : 0 < size) (hstart : size ∣ start) :
    n / size * size = start ↔ start ≤ n ∧ n < start + size := by
  obtain ⟨k, rfl⟩ := hstart
  rw [Nat.mul_comm, Nat.mul_right_inj (Nat.ne_of_gt hpos), Nat.div_eq_iff hpos, Nat.mul_comm k]
  refine and_congr_right fun _ => ?_
  omega

namespace Prefix

variable {p q : Prefix}

theorem eq_of_toNat (hn : p.network.toNat = q.network.toNat) (hl : p.length = q.length) :
    p = q := by
  obtain ⟨pn, pl, ple, pc⟩ := p
  obtain ⟨qn, ql, qle, qc⟩ := q
  obtain rfl : pn = qn := UInt32.toNat_inj.mp hn
  obtain rfl : pl = ql := hl
  rfl

theorem toNat_network (p : Prefix) :
    p.network.toNat / blockSize p.length * blockSize p.length = p.network.toNat := by
  rw [← toNat_and_netmask _ p.length_le, p.canonical]

theorem blockSize_dvd_network (p : Prefix) : blockSize p.length ∣ p.network.toNat :=
  ⟨p.network.toNat / blockSize p.length, by rw [Nat.mul_comm, toNat_network]⟩

theorem toNat_last (p : Prefix) :
    p.last.toNat = p.network.toNat + (blockSize p.length - 1) := by
  have hsize := blockSize_le p.length
  have hpos := blockSize_pos p.length
  have hnot : (~~~netmask p.length).toNat = blockSize p.length - 1 := by
    rw [UInt32.toNat_not, toNat_netmask _ p.length_le]
    change 2 ^ 32 - 1 - (2 ^ 32 - blockSize p.length) = _
    omega
  rw [last, UInt32.toNat_or, hnot]
  obtain ⟨k, hk⟩ := blockSize_dvd_network p
  rw [hk]
  exact (Nat.two_pow_add_eq_or_of_lt (by unfold blockSize at *; omega) k).symm

theorem network_add_blockSize_le (p : Prefix) : p.network.toNat + blockSize p.length ≤ 2 ^ 32 := by
  have hlast := toNat_last p
  have hlt : p.last.toNat < 2 ^ 32 := p.last.toNat_lt
  have hpos := blockSize_pos p.length
  omega

theorem contains_iff_le : p.contains q = true ↔ p.length ≤ q.length ∧
    p.network.toNat ≤ q.network.toNat ∧
    q.network.toNat + blockSize q.length ≤ p.network.toNat + blockSize p.length := by
  have hp := blockSize_pos p.length
  have hq := blockSize_pos q.length
  simp only [contains, first, Bool.and_eq_true, decide_eq_true_eq, UInt32.le_iff_toNat_le,
    toNat_last]
  omega

theorem contains_iff_div : p.contains q = true ↔ p.length ≤ q.length ∧
    q.network.toNat / blockSize p.length * blockSize p.length = p.network.toNat := by
  rw [contains_iff_le, start_eq_iff (blockSize_pos _) (blockSize_dvd_network p)]
  refine and_congr_right fun hl => and_congr_right fun _ => ⟨fun hend => ?_, fun hlt => ?_⟩
  · have hq := blockSize_pos q.length
    omega
  · -- the blocks of `q` tile the block of `p`, so the one that starts in it also ends in it
    obtain ⟨m, hm⟩ := blockSize_dvd hl
    obtain ⟨k, hk⟩ := blockSize_dvd_network p
    obtain ⟨j, hj⟩ := blockSize_dvd_network q
    rw [hk, hj, hm] at hlt ⊢
    have hlt' : blockSize q.length * j < blockSize q.length * (m * k + m) := by
      rw [Nat.mul_add, ← Nat.mul_assoc]
      exact hlt
    have hjm : j + 1 ≤ m * k + m := Nat.lt_of_mul_lt_mul_left hlt'
    calc blockSize q.length * j + blockSize q.length = blockSize q.length * (j + 1) := by ring
      _ ≤ blockSize q.length * (m * k + m) := Nat.mul_le_mul_left _ hjm
      _ = blockSize q.length * m * k + blockSize q.length * m := by ring

theorem length_widen (p : Prefix) (len : Nat) : (p.widen len).length = min len p.length :=
  rfl

private theorem toNat_widen (p : Prefix) (len : Nat) : (p.widen len).network.toNat =
    p.network.toNat / blockSize (min len p.length) * blockSize (min len p.length) :=
  toNat_and_netmask _ (Nat.le_trans (Nat.min_le_right ..) p.length_le)

theorem contains_iff_widen :
    p.contains q = true ↔ p.length ≤ q.length ∧ q.widen p.length = p := by
  rw [contains_iff_div]
  refine and_congr_right fun hl => ?_
  have hmin : min p.length q.length = p.length := Nat.min_eq_left hl
  constructor
  · intro h
    exact eq_of_toNat (by rw [toNat_widen, hmin, h]) (by rw [length_widen, hmin])
  · intro h
    have := congrArg (fun r : Prefix => r.network.toNat) h
    simpa only [toNat_widen, hmin] using this

@[simp] theorem contains_self (p : Prefix) : p.contains p = true :=
  contains_iff_le.mpr ⟨Nat.le_refl _, Nat.le_refl _, Nat.le_refl _⟩

theorem contains_trans {r : Prefix} (hpq : p.contains q = true) (hqr : q.contains r = true) :
    p.contains r = true := by
  rw [contains_iff_le] at *
  omega

theorem first_le_of_contains (h : p.contains q = true) : p.first ≤ q.first := by
  simp only [contains, Bool.and_eq_true, decide_eq_true_eq] at h
  exact h.1.1.1.2

theorem first_le_last_of_contains (h : p.contains q = true) : q.first ≤ p.last := by
  simp only [contains, Bool.and_eq_true, decide_eq_true_eq] at h
  exact h.1.1.2

theorem overlaps_iff :
    p.overlaps q = true ↔ p.contains q = true ∨ q.contains p = true := by
  simp only [overlaps, Bool.or_eq_true]

theorem overlaps_comm (p q : Prefix) : p.overlaps q = q.overlaps p :=
  Bool.or_comm _ _

end Prefix
end AddressPlan
