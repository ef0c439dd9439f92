/-!
# IPv4 prefixes

A prefix is a block of addresses that share their leading bits. It is kept in canonical form,
with every bit behind its length cleared, so that two prefixes are equal exactly when they
hold the same addresses. All arithmetic is on 32-bit words; no function walks a block address
by address.
-/
namespace AddressPlan

def netmask (len : Nat) : UInt32 :=
  if len = 0 then 0 else 0xFFFFFFFF <<< UInt32.ofNat (32 - len)

structure Prefix where
  network : UInt32
  length : Nat
  length_le : length ≤ 32
  canonical : network &&& netmask length = network
deriving DecidableEq

namespace Prefix

/-- The prefix of the given length around an address; host bits are cleared. -/
def ofAddress (address : UInt32) (len : Nat) (h : len ≤ 32) : Prefix where
  network := address &&& netmask len
  length := len
  length_le := h
  canonical := by rw [UInt32.and_assoc, UInt32.and_self]

def host (address : UInt32) : Prefix :=
  ofAddress address 32 (Nat.le_refl 32)

/-- The block of at most the given length that `p` lies in. -/
def widen (p : Prefix) (len : Nat) : Prefix :=
  ofAddress p.network (min len p.length) (Nat.le_trans (Nat.min_le_right ..) p.length_le)

def first (p : Prefix) : UInt32 :=
  p.network

def last (p : Prefix) : UInt32 :=
  p.network ||| ~~~netmask p.length

def size (p : Prefix) : UInt64 :=
  1 <<< UInt64.ofNat (32 - p.length)

/-- `inner` is at least as specific as `outer` and both its ends fall inside it. -/
def contains (outer inner : Prefix) : Bool :=
  decide (outer.length ≤ inner.length) &&
  decide (outer.first ≤ inner.first) && decide (inner.first ≤ outer.last) &&
  decide (outer.first ≤ inner.last) && decide (inner.last ≤ outer.last)

def containsAddress (p : Prefix) (address : UInt32) : Bool :=
  address &&& netmask p.length == p.network

def overlaps (p q : Prefix) : Bool :=
  p.contains q || q.contains p

/-- By first address, and of two that start together the wider one first. -/
def order (p q : Prefix) : Ordering :=
  (compare p.network q.network).then (compare p.length q.length)

end Prefix
end AddressPlan
