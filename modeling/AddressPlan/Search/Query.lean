import AddressPlan.Limits
import AddressPlan.Text.Lowercase
/-!
# Search queries

A search names a text, prefixes that a match has to contain or to lie in, and the sort of thing
that is wanted; all that is given has to hold of a match. Pages count from one, and any page size
is brought within the limits.
-/
namespace AddressPlan.Search

inductive Entity
  | pool
  | account
deriving DecidableEq

namespace Entity

def name : Entity → String
  | pool => "pool"
  | account => "account"

def ofName? (s : String) : Option Entity :=
  if s = "pool" then some pool else if s = "account" then some account else none

theorem ofName?_name (e : Entity) : ofName? e.name = some e := by
  cases e <;> rfl

def read (s : String) : Except Invalid Entity :=
  match ofName? (plainLabel s) with
  | some e => .ok e
  | none => .error (.unknownEntity (plainLabel s))

end Entity

structure Params where
  text : Option String
  cidrContains : Option String
  cidrWithin : Option String
  entity : Option String
  page : Option Int64
  pageSize : Option Int64
deriving DecidableEq

structure Query where
  /-- In lower case. -/
  text : Option String
  cidrContains : Option Prefix
  cidrWithin : Option Prefix
  entity : Option Entity
  /-- Counted from one. -/
  page : UInt64
  pageSize : UInt64
deriving DecidableEq

def readFilter (field : String) (text : Option String) : Except Invalid (Option Prefix) :=
  match text.bind Text.nonBlank? with
  | none => .ok none
  | some t =>
    match Prefix.parse t with
    | .ok p => .ok (some p)
    | .error cause => .error (.inFilter field (.literal cause))

def readEntity (text : Option String) : Except Invalid (Option Entity) :=
  match text.bind Text.nonBlank? with
  | none => .ok none
  | some t => some <$> Entity.read t

def positive? (n : Option Int64) : Option UInt64 :=
  (n.filter fun n => 1 ≤ n.toInt).map fun n => UInt64.ofNat n.toInt.toNat

def Params.query (limits : Limits) (p : Params) : Except Invalid Query := do
  let text := (p.text.bind Text.nonBlank?).map Text.lowercase
  let cidrContains ← readFilter "cidr_contains" p.cidrContains
  let cidrWithin ← readFilter "cidr_within" p.cidrWithin
  let entity ← readEntity p.entity
  if text.isNone && cidrContains.isNone && cidrWithin.isNone then throw .noCriterion
  return {
    text := text
    cidrContains := cidrContains
    cidrWithin := cidrWithin
    entity := entity
    page := (positive? p.page).getD 1
    pageSize := min ((positive? p.pageSize).getD limits.defaultPageSize) limits.maxPageSize }

def Query.wants (q : Query) (e : Entity) : Bool :=
  match q.entity with
  | none => true
  | some wanted => wanted == e

def Query.textMatches (q : Query) (fields : List String) : Bool :=
  match q.text with
  | none => true
  | some needle =>
    fields.any fun field => Text.occursIn needle.toList (Text.lowercase field).toList

end AddressPlan.Search
