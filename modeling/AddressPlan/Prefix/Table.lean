import AddressPlan.Prefix.Basic
/-!
# A table from prefixes to positions

A hash table with chains. What it is to hold is known before it is filled, so the number of its
chains stays as it is.
-/
namespace AddressPlan.Prefix

/-- The prefixes of one place of a table, each with its positions. -/
abbrev Chain := List (Prefix × List Nat)

def Chain.push (p : Prefix) (position : Nat) : Chain → Chain
  | [] => [(p, [position])]
  | (q, found) :: rest =>
    if q = p then (q, found ++ [position]) :: rest else (q, found) :: Chain.push p position rest

structure Table where
  chains : Array Chain
  nonempty : 0 < chains.size

namespace Table

def empty (count : Nat) : Table :=
  ⟨.replicate (count + 1) [], by rw [Array.size_replicate]; exact Nat.succ_pos count⟩

def slot (table : Table) (p : Prefix) : Fin table.chains.size :=
  ⟨(p.network.toNat >>> (32 - p.length) * 33 + p.length) % table.chains.size,
    Nat.mod_lt _ table.nonempty⟩

def find? (table : Table) (p : Prefix) : Option (List Nat) :=
  table.chains[table.slot p].lookup p

def push (table : Table) (p : Prefix) (position : Nat) : Table :=
  ⟨table.chains.modify (table.slot p) (Chain.push p position), by
    rw [Array.size_modify]; exact table.nonempty⟩

end Table
end AddressPlan.Prefix
