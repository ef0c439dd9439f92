import AddressPlan.Limits
/-!
# Validation

The checks that every request passes before storage is touched: names, prefixes, and the names
of kinds, states and sources. A valid request yields a draft of a pool.
-/
namespace AddressPlan

/-- A trimmed name that is not empty, not too long and free of control characters. -/
def validName (limits : Limits) (name : String) : Except Invalid String :=
  let trimmed := Text.trim name
  if trimmed.isEmpty then .error .emptyName
  else if limits.maxNameLength.toNat < trimmed.length then
    .error (.longName trimmed.length limits.maxNameLength.toNat)
  else if trimmed.toList.any Text.isControl then .error (.controlInName trimmed)
  else .ok trimmed

def validCidr (limits : Limits) (text : String) : Except Invalid Prefix :=
  match Prefix.parse text with
  | .error cause => .error (.literal cause)
  | .ok p =>
    if p.length < limits.minPrefixLength.toNat ∨ limits.maxPrefixLength.toNat < p.length then
      .error (.lengthOutOfRange p limits.minPrefixLength.toNat limits.maxPrefixLength.toNat)
    else .ok p

def validChild (entry : Option EntryLabel) (parent child : Prefix) : Except Refusal Unit :=
  if parent.contains child then .ok () else .error (.outside entry child parent)

namespace PoolKind

def read (s : String) : Except Invalid PoolKind :=
  match ofName? (plainLabel s) with
  | some k => .ok k
  | none => .error (.unknownKind (plainLabel s))

end PoolKind

namespace PoolStatus

def read (s : String) : Except Invalid PoolStatus :=
  match ofName? (plainLabel s) with
  | some k => .ok k
  | none => .error (.unknownStatus (plainLabel s))

end PoolStatus

namespace PoolSource

/-- The name of the planner may also be written with a hyphen. -/
def read (s : String) : Except Invalid PoolSource :=
  let label := plainLabel s
  match if label = "schema-planner" then some planner else ofName? label with
  | some k => .ok k
  | none => .error (.unknownSource label)

end PoolSource

def readGiven {α : Type} (read : String → Except Invalid α) (text : Option String) :
    Except Invalid (Option α) :=
  match text.bind Text.nonBlank? with
  | none => .ok none
  | some t => some <$> read t

structure PoolRequest where
  name : String
  cidr : String
  kind : Option String
  status : Option String
  parent : Option PoolId
  source : Option String
  description : Option String
  tags : Tags
deriving DecidableEq

/-- The draft that a request stands for. Kind, status and source are `subnet`, `planned` and
`manual` where the request leaves them blank. -/
def PoolRequest.validate (limits : Limits) (r : PoolRequest) : Except Invalid PoolDraft := do
  let name ← validName limits r.name
  let cidr ← validCidr limits r.cidr
  let kind ← readGiven PoolKind.read r.kind
  let status ← readGiven PoolStatus.read r.status
  let source ← readGiven PoolSource.read r.source
  return {
    name := name
    cidr := cidr
    kind := kind.getD .subnet
    status := status.getD .planned
    parent := r.parent
    source := source.getD .manual
    description := r.description.getD ""
    tags := r.tags }

structure PoolPatch where
  status : Option String
  description : Option String
  tags : Option Tags
deriving DecidableEq

/-- A blank status leaves the status as it is. -/
def PoolPatch.validate (p : PoolPatch) : Except Invalid PoolUpdate := do
  let status ← readGiven PoolStatus.read p.status
  return { status := status, description := p.description, tags := p.tags }

end AddressPlan
