import AddressPlan.Proofs.Prefix.Blocks
/-!
# Prefixes as sets of addresses

An address lies in a prefix when it lies between the two ends. Two prefixes that share an address
nest, because blocks are aligned to their size, so overlapping is sharing an address.
-/
namespace AddressPlan.Prefix

variable {p q : Prefix} {a : UInt32}

private theorem containsAddress_iff_div : p.containsAddress a = true ↔
    a.toNat / blockSize p.length * blockSize p.length = p.network.toNat := by
  rw [containsAddress, beq_iff_eq, ← UInt32.toNat_inj, toNat_and_netmask a p.length_le]

theorem containsAddress_iff_le :
    p.containsAddress a = true ↔ p.first ≤ a ∧ a ≤ p.last := by
  have hpos := blockSize_pos p.length
  rw [containsAddress_iff_div, start_eq_iff hpos (blockSize_dvd_network p),
    UInt32.le_iff_toNat_le, UInt32.le_iff_toNat_le, toNat_last, first]
  omega

theorem containsAddress_first (p : Prefix) : p.containsAddress p.first = true :=
  containsAddress_iff_div.mpr (toNat_network p)

private theorem contains_of_shared (hp : p.containsAddress a = true)
    (hq : q.containsAddress a = true)
    (hlength : p.length ≤ q.length) : p.contains q = true := by
  rw [containsAddress_iff_div] at hp hq
  refine contains_iff_div.mpr ⟨hlength, ?_⟩
  obtain ⟨m, hm⟩ := blockSize_dvd hlength
  -- the start of the block of `q` around the address lies in the block of `p` around it
  have hdiv : a.toNat / blockSize q.length * blockSize q.length / blockSize p.length =
      a.toNat / blockSize p.length := by
    rw [hm, ← Nat.div_div_eq_div_mul, Nat.mul_div_cancel _ (blockSize_pos _),
      Nat.div_div_eq_div_mul]
  rw [← hq, hdiv, hp]

theorem overlaps_iff_exists_address : p.overlaps q = true ↔
    ∃ a, p.containsAddress a = true ∧ q.containsAddress a = true := by
  rw [overlaps_iff]
  constructor
  · rintro (h | h)
    · exact ⟨q.first, containsAddress_iff_le.mpr
        ⟨first_le_of_contains h, first_le_last_of_contains h⟩, containsAddress_first q⟩
    · exact ⟨p.first, containsAddress_first p, containsAddress_iff_le.mpr
        ⟨first_le_of_contains h, first_le_last_of_contains h⟩⟩
  · rintro ⟨a, hp, hq⟩
    rcases Nat.le_total p.length q.length with hle | hle
    · exact Or.inl (contains_of_shared hp hq hle)
    · exact Or.inr (contains_of_shared hq hp hle)

theorem overlaps_of_crossing (hpq : p.first ≤ q.last) (hqp : q.first ≤ p.last) :
    p.overlaps q = true := by
  have hp := containsAddress_iff_le.mp (containsAddress_first p)
  have hq := containsAddress_iff_le.mp (containsAddress_first q)
  rw [overlaps_iff_exists_address]
  rcases UInt32.le_total p.first q.first with hle | hle
  · exact ⟨q.first, containsAddress_iff_le.mpr ⟨hle, hqp⟩, containsAddress_first q⟩
  · exact ⟨p.first, containsAddress_first p, containsAddress_iff_le.mpr ⟨hle, hpq⟩⟩

end AddressPlan.Prefix
