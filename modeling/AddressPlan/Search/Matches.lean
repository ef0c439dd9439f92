import AddressPlan.Conflicts
import AddressPlan.Search.Query
/-!
# Matches of a search

The pools that match, in ascending order of ids, followed by the accounts that match, in
ascending order of ids, cut to the page that is asked for. The total counts all of them.
-/
namespace AddressPlan.Search

inductive Item
  | pool (pool : Pool)
  | account (account : Account)
deriving DecidableEq

structure Response where
  items : List Item
  /-- Matches on all pages. -/
  total : Nat
  page : UInt64
  pageSize : UInt64
deriving DecidableEq

/-- The positions of the pools that pass the filters on prefixes, by way of an index. -/
def candidatePositions (pools : List Pool) (q : Query) : List Nat :=
  let index := poolIndex pools
  match q.cidrContains, q.cidrWithin with
  | none, none => List.range pools.length
  | some needle, none => index.containing needle
  | none, some range => index.containedIn range
  | some needle, some range =>
    let within := (index.containedIn range).toArray
    (index.containing needle).filter (binarySearch within)

def matchingPools (pools : List Pool) (q : Query) : List Pool :=
  if q.wants .pool then
    let candidates := (candidatePositions pools q).filterMap (pools[·]?)
    (candidates.filter fun pool => q.textMatches [pool.name, pool.cidr.text]).mergeSort
      fun p q => p.id ≤ q.id
  else []

/-- A search for what lies in a prefix finds no accounts. -/
def Query.wantsAccounts (q : Query) : Bool :=
  q.wants .account && q.cidrWithin.isNone

def accountMatches (q : Query) (account : Account) : Bool :=
  (match q.cidrContains with
  | none => true
  | some needle => account.cidr.any (·.contains needle)) &&
  q.textMatches [account.name, account.key]

def matchingAccounts (accounts : List Account) (q : Query) : List Account :=
  if q.wantsAccounts then
    (accounts.filter (accountMatches q)).mergeSort fun a b => a.id ≤ b.id
  else []

def saturatingMul (a b : UInt64) : UInt64 :=
  if a.toNat * b.toNat < UInt64.size then a * b else 0xFFFFFFFFFFFFFFFF

def Query.skipped (q : Query) : UInt64 :=
  saturatingMul (q.page - 1) q.pageSize

def matchingItems (pools : List Pool) (accounts : List Account) (q : Query) : List Item :=
  (matchingPools pools q).map .pool ++ (matchingAccounts accounts q).map .account

def respond (pools : List Pool) (accounts : List Account) (q : Query) : Response :=
  let items := matchingItems pools accounts q
  { items := (items.drop q.skipped.toNat).take q.pageSize.toNat
    total := items.length
    page := q.page
    pageSize := q.pageSize }

end AddressPlan.Search
