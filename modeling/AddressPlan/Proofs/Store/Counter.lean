import AddressPlan.Proofs.Store.Calls
/-!
# The id counter of a session

Ids are given out one after the other, and behind the largest one the counter goes back to 0. A
session counts the pools that it creates, so the count says whether the counter has come that far:
until then new ids are larger than all others, and what rests on that is kept.
-/
namespace AddressPlan

section Ids

variable {first : PoolId} {k n : Nat}

theorem toNat_add_ofNat (h : first.toNat + k < 2 ^ 64) :
    (first + UInt64.ofNat k).toNat = first.toNat + k := by
  rw [UInt64.toNat_add, UInt64.toNat_ofNat', Nat.add_mod_mod]
  exact Nat.mod_eq_of_lt h

theorem add_ofNat_ne (hlt : k < n) (hn : n < k + 2 ^ 64) :
    first + UInt64.ofNat k ≠ first + UInt64.ofNat n := by
  intro heq
  have hmod := congrArg UInt64.toNat ((UInt64.add_right_inj first).mp heq)
  rw [UInt64.toNat_ofNat', UInt64.toNat_ofNat'] at hmod
  omega

theorem add_ofNat_add_size : first + UInt64.ofNat (k + 2 ^ 64) = first + UInt64.ofNat k := by
  refine congrArg (first + ·) (UInt64.toNat_inj.mp ?_)
  rw [UInt64.toNat_ofNat', UInt64.toNat_ofNat', Nat.add_mod_right]

theorem add_ofNat_succ : first + UInt64.ofNat (k + 1) = first + UInt64.ofNat k + 1 := by
  rw [UInt64.ofNat_add, UInt64.add_assoc]
  rfl

end Ids

namespace Session

variable {α : Type} {s : Session} {created later : Nat} {P : Memory → Prop} {m n : Memory}

/-- There are ids above the counter of a session until it has created so many pools in all. -/
def IdsLast (s : Session) (created : Nat) : Prop :=
  s.memory.nextId.toNat + created < 2 ^ 64 + s.created

theorem IdsLast.of_le (h : s.IdsLast later) (hle : created ≤ later) : s.IdsLast created := by
  rw [IdsLast] at *
  omega

theorem created_call {fault : Option String} (act : Memory → Except Refusal α × Memory) :
    (s.call fault act).2.created = s.created := by
  by_cases hadmits : s.Admits fault
  · rw [call_of_admits hadmits]
    rfl
  · obtain ⟨refusal, hcall⟩ := call_of_not_admits act hadmits
    rw [hcall]
    rfl

theorem created_le_create (draft : PoolDraft) : s.created ≤ (create draft s).2.created := by
  by_cases hstores : s.Stores draft
  · rw [create_of_stores hstores]
    exact Nat.le_succ s.created
  · obtain ⟨refusal, hcreate⟩ := create_of_not_stores hstores
    rw [hcreate]
    exact Nat.le_refl s.created

/-- As long as the ids of a first session last, the counter has gone on by one for each pool that
has been created since, and the memory has a property. -/
def Meanwhile (s : Session) (P : Memory → Prop) (created : Nat) (m : Memory) : Prop :=
  s.IdsLast created →
    m.nextId.toNat + s.created = s.memory.nextId.toNat + created ∧ P m

theorem Meanwhile.start (h : P s.memory) : s.Meanwhile P s.created s.memory :=
  fun _ => ⟨rfl, h⟩

theorem Meanwhile.same (h : s.Meanwhile P created m) (hnext : n.nextId = m.nextId)
    (hP : P m → P n) : s.Meanwhile P created n := by
  intro hlast
  obtain ⟨hcount, hm⟩ := h hlast
  rw [hnext]
  exact ⟨hcount, hP hm⟩

theorem Meanwhile.push {draft : PoolDraft} {now : Instant} (h : s.Meanwhile P created m)
    (hP : m.nextId.toNat + 1 < 2 ^ 64 → P m → P (m.push now draft)) :
    s.Meanwhile P (created + 1) (m.push now draft) := by
  intro hlast
  obtain ⟨hcount, hm⟩ := h (hlast.of_le (Nat.le_succ created))
  have hroom : m.nextId.toNat + 1 < 2 ^ 64 := by
    rw [IdsLast] at hlast
    omega
  rw [Memory.toNat_nextId_push hroom]
  exact ⟨by omega, hP hroom hm⟩

end Session
end AddressPlan
