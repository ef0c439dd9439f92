import AddressPlan.Proofs.Ancestry.Scans
import AddressPlan.Proofs.Sorting
import AddressPlan.Search.Matches
/-!
# Matches as a scan

A search takes its candidates from an index, cuts two answers of the index down to what they have
in common, and sorts what is left. All of this is one filter and one sorting, and so is what a
search would find had it listed everything.
-/
namespace AddressPlan.Search

variable {pools : List Pool} {accounts : List Account}

def Query.cidrMatches (q : Query) (pool : Pool) : Bool :=
  q.cidrContains.all (pool.cidr.contains ·) && q.cidrWithin.all (·.contains pool.cidr)

def Query.poolMatches (q : Query) (pool : Pool) : Bool :=
  q.wants .pool && q.cidrMatches pool && q.textMatches [pool.name, pool.cidr.text]

private theorem filter_binarySearch (keep keep' : Prefix → Bool) (ps : List Prefix) :
    (Prefix.positions keep ps).filter (binarySearch (Prefix.positions keep' ps).toArray) =
      Prefix.positions (fun p => keep' p && keep p) ps := by
  rw [List.filter_congr fun i _ => binarySearch_eq (Prefix.positions_ascending keep' ps) i]
  unfold Prefix.positions
  rw [List.filter_filter]
  refine List.filter_congr fun i hi => ?_
  have hlt := List.mem_range.mp hi
  simp [hlt]

private theorem positions_true (ps : List Prefix) :
    Prefix.positions (fun _ => true) ps = List.range ps.length := by
  refine List.filter_eq_self.mpr fun i hi => ?_
  have hlt := List.mem_range.mp hi
  simp [hlt]

private theorem candidates_eq_filter (pools : List Pool) (q : Query) :
    (candidatePositions pools q).filterMap (pools[·]?) = pools.filter q.cidrMatches := by
  unfold candidatePositions Query.cidrMatches
  cases q.cidrContains with
  | none =>
    cases q.cidrWithin with
    | none =>
      have hall := filterMap_positions (fun _ => true) pools
      rw [positions_true, List.length_map] at hall
      simpa using hall
    | some range =>
      simp only [poolIndex, Prefix.Index.containedIn_ofList, filterMap_positions]
      simp
  | some needle =>
    cases q.cidrWithin with
    | none =>
      simp only [poolIndex, Prefix.Index.containing_ofList, filterMap_positions]
      simp
    | some range =>
      simp only [poolIndex, Prefix.Index.containing_ofList, Prefix.Index.containedIn_ofList,
        filter_binarySearch, filterMap_positions]
      simp [Bool.and_comm]

/-- The pools that match, whichever way they are looked for, are found by one filter. -/
theorem matchingPools_eq_sort (pools : List Pool) (q : Query) :
    matchingPools pools q = sortByKey Pool.id (pools.filter q.poolMatches) := by
  rw [matchingPools]
  split
  · next hwants =>
    have hboth : (pools.filter q.cidrMatches).filter
        (fun pool => q.textMatches [pool.name, pool.cidr.text]) = pools.filter q.poolMatches := by
      rw [List.filter_filter]
      refine List.filter_congr fun pool _ => ?_
      rw [Query.poolMatches, hwants, Bool.true_and, Bool.and_comm]
    rw [candidates_eq_filter, ← hboth]
    rfl
  · next hwants =>
    have hnone : pools.filter q.poolMatches = [] := by simp [Query.poolMatches, hwants]
    simp [hnone, sortByKey]

theorem matchingAccounts_eq_sort (accounts : List Account) (q : Query) :
    matchingAccounts accounts q = sortByKey Account.id
      (accounts.filter fun account => q.wantsAccounts && accountMatches q account) := by
  rw [matchingAccounts]
  split
  · next hwants => simp only [hwants, Bool.true_and, sortByKey]
  · next hwants => simp [hwants, sortByKey]

theorem matchingItems_of_listed (pools : List Pool) (accounts : List Account) (q : Query) :
    matchingItems (if q.wants .pool then pools else [])
      (if q.wantsAccounts then accounts else []) q = matchingItems pools accounts q := by
  simp only [matchingItems, matchingPools, matchingAccounts]
  split <;> split <;> rfl

end AddressPlan.Search
