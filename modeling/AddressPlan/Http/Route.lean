import AddressPlan.Http.Message
import AddressPlan.Pool.Basic
import AddressPlan.Text.Numeral
import AddressPlan.Text.Percent
/-!
# Routes

The places of the service and the operations on them. A place is found by the segments of a path
as they are sent; only the text of an id is decoded. An operation depends on the place and the
method, and `HEAD` counts as `GET`.
-/
namespace AddressPlan.Http

inductive Place
  | health
  | pools
  | pool (id : List Char)
  | subnets (id : List Char)
  | ancestors (id : List Char)
  | audit
  | check
  | apply
  | search
deriving DecidableEq

inductive Operation
  | health
  | listPools
  | createPool
  | getPool (id : PoolId)
  | updatePool (id : PoolId)
  | subnets (id : PoolId)
  | ancestors (id : PoolId)
  | audit
  | checkPlan
  | applyPlan
  | search
deriving DecidableEq

inductive Stray
  | noPlace
  | noMethod
  | badId
deriving DecidableEq

namespace Place

/-- The place under the segments of a path behind those that all places but one share. -/
private def ofInner? : List (List Char) → Option Place
  | [] => none
  | [a] =>
    if a = "pools".toList then some pools
    else if a = "audit".toList then some audit
    else if a = "search".toList then some search
    else none
  | [a, b] =>
    if a = "schema".toList then
      if b = "check".toList then some check
      else if b = "apply".toList then some apply
      else none
    else if a = "pools".toList ∧ b ≠ [] then some (pool b)
    else none
  | [a, b, c] =>
    if a = "pools".toList ∧ b ≠ [] then
      if c = "subnets".toList then some (subnets b)
      else if c = "ancestors".toList then some (ancestors b)
      else none
    else none
  | _ => none

def ofPath? (path : List Char) : Option Place :=
  match Text.pieces '/' path with
  | [[], a] => if a = "healthz".toList then some health else none
  | [] :: a :: b :: rest =>
    if a = "api".toList ∧ b = "v1".toList then ofInner? rest else none
  | _ => none

def readId (segment : List Char) : Except Stray PoolId :=
  match Text.fromUtf8? (Text.percentDecode (Text.utf8 segment)) with
  | some s => (Text.readUInt64 s).mapError fun _ => .badId
  | none => .error .badId

def operation (place : Place) (method : Method) : Except Stray Operation :=
  let method := if method = .head then .get else method
  match place, method with
  | health, .get => .ok .health
  | pools, .get => .ok .listPools
  | pools, .post => .ok .createPool
  | pool id, .get => .getPool <$> readId id
  | pool id, .patch => .updatePool <$> readId id
  | subnets id, .get => .subnets <$> readId id
  | ancestors id, .get => .ancestors <$> readId id
  | audit, .get => .ok .audit
  | check, .post => .ok .checkPlan
  | apply, .post => .ok .applyPlan
  | search, .get => .ok .search
  | _, _ => .error .noMethod

end Place

def Request.operation (r : Request) : Except Stray Operation :=
  match Place.ofPath? r.target.path with
  | some place => place.operation r.method
  | none => .error .noPlace

end AddressPlan.Http
