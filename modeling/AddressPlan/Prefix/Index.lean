import AddressPlan.Prefix.Table
/-!
# An index of prefixes

Answers which entries of a list contain a prefix, lie in it, or share an address with it, without a
scan. Entries are known by their position in the list, and every answer is ascending. Canonical
prefixes nest or are disjoint, so an entry that contains a prefix is the block around it of some
smaller length, which a table finds, and the entries inside it form one run, which starts where a
binary search ends.
-/
namespace AddressPlan

section Searching

variable {α : Type}

/-- Narrows the span from `lo` to `hi` down to the first place where `before` fails. -/
def narrow (before : α → Bool) (xs : Array α) : Nat → Nat → Nat → Nat
  | 0, lo, _ => lo
  | fuel + 1, lo, hi =>
    if lo < hi then
      let mid := (lo + hi) / 2
      match xs[mid]? with
      | some x =>
        if before x then narrow before xs fuel (mid + 1) hi else narrow before xs fuel lo mid
      | none => lo
    else lo

/-- The first place where `before` fails, in an array on which it holds up to some place. -/
def partitionPoint (before : α → Bool) (xs : Array α) : Nat :=
  narrow before xs xs.size 0 xs.size

/-- Whether an ascending array has a number. -/
def binarySearch (xs : Array Nat) (x : Nat) : Bool :=
  xs[partitionPoint (· < x) xs]? == some x

/-- The elements from place `i` on, as long as `keep` holds. -/
def runFrom (keep : α → Bool) (xs : Array α) : Nat → Nat → List α
  | 0, _ => []
  | fuel + 1, i =>
    match xs[i]? with
    | some x => if keep x then x :: runFrom keep xs fuel (i + 1) else []
    | none => []

end Searching

namespace Prefix

structure Entry where
  block : Prefix
  position : Nat
deriving DecidableEq

def Entry.le (a b : Entry) : Bool :=
  (a.block.order b.block).then (compare a.position b.position) != .gt

structure Index where
  entries : Array Entry
  /-- The positions at which each block stands. -/
  exact : Table

namespace Index

def ofList (ps : List Prefix) : Index :=
  let sorted := (ps.zipIdx.map fun (p, i) => Entry.mk p i).mergeSort Entry.le
  { entries := sorted.toArray
    exact := sorted.foldl (fun exact e => exact.push e.block e.position) (.empty sorted.length) }

def size (index : Index) : Nat :=
  index.entries.size

def isEmpty (index : Index) : Bool :=
  index.entries.isEmpty

def run (index : Index) (before keep : Entry → Bool) : List Entry :=
  runFrom keep index.entries index.size (partitionPoint before index.entries)

/-- Positions of the entries that contain `p`, equal ones included. There is at most one block of
each length around `p`. -/
def containing (index : Index) (p : Prefix) : List Nat :=
  ((List.range (p.length + 1)).filterMap fun len =>
    index.exact.find? (p.widen len)).flatten.mergeSort

/-- Positions of the entries that lie in `p`, equal ones included. -/
def containedIn (index : Index) (p : Prefix) : List Nat :=
  (((index.run (fun e => e.block.first < p.first) (fun e => e.block.first ≤ p.last)).filter
    fun e => p.contains e.block).map Entry.position).mergeSort

/-- Positions of the entries that share an address with `p`. -/
def overlapping (index : Index) (p : Prefix) : List Nat :=
  (index.containing p ++ index.containedIn p).mergeSort.eraseReps

end Index
end Prefix
end AddressPlan
