import AddressPlan.Overlap
import AddressPlan.Prefix.Literal
import AddressPlan.Text.Escape
import AddressPlan.Text.Numeral
/-!
# Refusals

Why a request is turned down. A cause keeps what it is about; the wording and the coarse kind
that callers sort by are functions of it.
-/
namespace AddressPlan

inductive EntryLabel
  | position (n : Nat)
  | ref (ref : String)
deriving DecidableEq

def EntryLabel.text : EntryLabel → String
  | position n => "pool #" ++ n.repr
  | ref r => "pool '" ++ r ++ "'"

inductive MessageFault
  | notJson
  | wrongShape
  | noJsonType
  | badQuery
deriving DecidableEq

def MessageFault.text : MessageFault → String
  | notJson => "Failed to parse the request body as JSON"
  | wrongShape => "Failed to deserialize the JSON body into the target type"
  | noJsonType => "Expected request with `Content-Type: application/json`"
  | badQuery => "Failed to deserialize query string"

inductive Invalid
  | literal (cause : Prefix.LiteralError)
  | lengthTooLong (len : Nat)
  | childTooLong (len : Nat)
  | childTooShort (len : Nat) (parent : Prefix)
  | emptyName
  | longName (length limit : Nat)
  | controlInName (name : String)
  | lengthOutOfRange (cidr : Prefix) (least most : Nat)
  | unknownKind (label : String)
  | unknownStatus (label : String)
  | unknownSource (label : String)
  | unknownEntity (label : String)
  | badSetting (key value : String) (cause : Text.NumeralError)
  | maxLengthTooLong (most : Nat)
  | lengthsCrossed (least most : Nat)
  | noNameLength
  | noPageSize
  | pageSizesCrossed (default most : Nat)
  | emptyPlan
  | blankRef (entry : EntryLabel)
  | duplicateRef (ref : String)
  | strayParent (entry : EntryLabel) (parent : String)
  | undeclaredOverlap (ref : String) (cidr : Prefix) (other : String) (otherCidr : Prefix)
  | noCriterion
  | inEntry (entry : EntryLabel) (cause : Invalid)
  | inFilter (field : String) (cause : Invalid)
  | message (fault : MessageFault)
  | remote (text : String)
deriving DecidableEq

private def bits (n : Nat) : String := "/" ++ n.repr

def Invalid.text : Invalid → String
  | literal cause => cause.message
  | lengthTooLong len => "prefix length " ++ bits len ++ " exceeds /32"
  | childTooLong len => "child prefix length " ++ bits len ++ " exceeds /32"
  | childTooShort len parent =>
    "child prefix length " ++ bits len ++ " is shorter than parent " ++ parent.text
  | emptyName => "pool name must not be empty"
  | longName length limit =>
    "pool name is " ++ length.repr ++ " characters, maximum is " ++ limit.repr
  | controlInName name => "pool name '" ++ Text.escape name ++ "' contains control characters"
  | lengthOutOfRange cidr least most =>
    "CIDR " ++ cidr.text ++ " has prefix length " ++ bits cidr.length ++
      ", allowed range is " ++ bits least ++ " to " ++ bits most
  | unknownKind label =>
    "invalid pool type '" ++ label ++
      "' (expected supernet, region, environment, vpc or subnet)"
  | unknownStatus label =>
    "invalid pool status '" ++ label ++ "' (expected planned, active or deprecated)"
  | unknownSource label => "invalid pool source '" ++ label ++ "'"
  | unknownEntity label =>
    "invalid search type '" ++ label ++ "' (expected pool or account)"
  | badSetting key value cause =>
    key ++ " has invalid value '" ++ value ++ "': " ++ cause.message
  | maxLengthTooLong most => "max_prefix_len " ++ bits most ++ " exceeds /32"
  | lengthsCrossed least most =>
    "min_prefix_len " ++ bits least ++ " is greater than max_prefix_len " ++ bits most
  | noNameLength => "max_name_len must be positive"
  | noPageSize => "page sizes must be positive"
  | pageSizesCrossed default most =>
    "default_page_size " ++ default.repr ++ " is greater than max_page_size " ++ most.repr
  | emptyPlan => "schema must contain at least one pool"
  | blankRef entry => entry.text ++ ": ref must not be empty"
  | duplicateRef ref => "duplicate ref '" ++ ref ++ "'"
  | strayParent entry parent =>
    entry.text ++ ": parent_ref '" ++ parent ++ "' must name an earlier entry"
  | undeclaredOverlap ref cidr other otherCidr =>
    "pool '" ++ ref ++ "' (" ++ cidr.text ++ ") overlaps pool '" ++ other ++ "' (" ++
      otherCidr.text ++ ") but is not declared under it"
  | noCriterion =>
    "search requires a query (q) or a CIDR filter (cidr_contains, cidr_within)"
  | inEntry entry cause => entry.text ++ ": " ++ cause.text
  | inFilter field cause => field ++ ": Validation error: " ++ cause.text
  | message fault => fault.text
  | remote text => text

inductive Clash
  | nameTaken (name : String) (holder : PoolId)
  | blocks (cidr : Prefix) (conflicts : List Conflict)
  | plan (conflicts : List Conflict)
  | remote (text : String)
deriving DecidableEq

def Clash.conflicts : Clash → List Conflict
  | blocks _ conflicts => conflicts
  | plan conflicts => conflicts
  | _ => []

def Clash.text : Clash → String
  | nameTaken name holder =>
    "pool name '" ++ name ++ "' is already used by pool " ++ holder.toNat.repr
  | blocks cidr conflicts =>
    cidr.text ++ " overlaps " ++ conflicts.length.repr ++
      " existing pool(s) outside its parent chain"
  | plan conflicts =>
    "schema conflicts with existing pools (" ++ conflicts.length.repr ++
      " conflicts), nothing was created"
  | remote text => text

inductive Absence
  | pool (id : PoolId)
  | parent (id : PoolId)
  | remote (text : String)
deriving DecidableEq

def Absence.text : Absence → String
  | pool id => "Pool " ++ id.toNat.repr ++ " not found"
  | parent id => "Parent pool " ++ id.toNat.repr ++ " not found"
  | remote text => text

inductive Refusal
  | invalid (cause : Invalid)
  | outside (entry : Option EntryLabel) (child parent : Prefix)
  | clash (cause : Clash)
  | absent (cause : Absence)
  | storage (text : String)
  | cancelled
deriving DecidableEq

namespace Refusal

inductive Kind
  | validation
  | containment
  | conflict
  | notFound
  | storage
  | cancelled
deriving DecidableEq

def Kind.name : Kind → String
  | validation => "validation"
  | containment => "containment"
  | conflict => "conflict"
  | notFound => "not_found"
  | storage => "storage"
  | cancelled => "cancelled"

def kind : Refusal → Kind
  | invalid _ => .validation
  | outside .. => .containment
  | clash _ => .conflict
  | absent _ => .notFound
  | storage _ => .storage
  | cancelled => .cancelled

def message : Refusal → String
  | invalid cause => "Validation error: " ++ cause.text
  | outside none child parent =>
    "Containment error: CIDR " ++ child.text ++ " is not contained in parent CIDR " ++
      parent.text
  | outside (some entry) child parent =>
    "Containment error: " ++ entry.text ++ ": CIDR " ++ child.text ++
      " is not contained in parent CIDR " ++ parent.text
  | clash cause => "Conflict: " ++ cause.text
  | absent cause => "Not found: " ++ cause.text
  | storage text => "Storage error: " ++ text
  | cancelled => "Operation cancelled"

def conflicts : Refusal → List Conflict
  | clash cause => cause.conflicts
  | _ => []

end Refusal
end AddressPlan
