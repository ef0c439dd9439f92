import AddressPlan.Engine.Plans
import AddressPlan.Engine.Searches
import AddressPlan.Format.Plan
import AddressPlan.Format.Refusal
import AddressPlan.Format.Search
import AddressPlan.Http.MediaType
import AddressPlan.Http.Params
import AddressPlan.Http.Route
/-!
# The service

Answering a request is a script of storage calls, like the operations it runs. A request that
strays, or whose text cannot be read, is answered without any storage call.
-/
namespace AddressPlan.Http
open Json (Value Decoder)

def version : String := "0.1.0"

/-- The number of child blocks in a response: some if the request does not say, and never too
many. -/
def windowLimit (asked : Option UInt64) : UInt64 :=
  max 1 (min (asked.getD 256) 4096)

def Request.decode {α : Type} (r : Request) (decoder : Decoder α) : Except Invalid α :=
  if (r.contentType.map MediaType.isJson).getD false then
    (Json.decodeText decoder r.body).mapError fun
      | .malformed => .message .notJson
      | .mismatch => .message .wrongShape
  else .error (.message .noJsonType)

def Request.pairs (r : Request) : Pairs :=
  Text.queryPairs r.target.query

private def refusalStatus : Refusal.Kind → Nat
  | .validation => 400
  | .containment => 400
  | .notFound => 404
  | .conflict => 409
  | .storage => 502
  | .cancelled => 503

def Response.ofRefusal (r : Refusal) : Response :=
  ⟨refusalStatus r.kind, .json r.json⟩

def Response.ofStray : Stray → Response
  | .noPlace => empty 404
  | .noMethod => empty 405
  | .badId => ⟨400, .text "Invalid URL"⟩

def respondWith {α : Type} (status : Nat) (write : α → Value) (action : Action α) :
    Script Response := do
  match ← action.run with
  | .ok a => return ⟨status, .json (write a)⟩
  | .error refusal => return .ofRefusal refusal

def windowJson (params : WindowParams) (pool : Pool) (window : Prefix.Window) : Value := .object [
  ("pool_id", .nat pool.id),
  ("cidr", pool.cidr.json),
  ("prefix_len", .count params.length.toNat),
  ("offset", .nat params.offset),
  ("total", .nat window.total),
  ("usable_hosts", .nat window.usableHosts),
  ("blocks", .list Prefix.json window.blocks)]

private def healthJson : Value :=
  .object [("status", .string "ok"), ("version", .string version)]

def run (limits : Limits) (request : Request) : Operation → Script Response
  | .health => return ⟨200, .json healthJson⟩
  | .listPools => respondWith 200 (Value.list Pool.json) Engine.listPools
  | .createPool => respondWith 201 Pool.json do
    let spec ← Action.valid (request.decode PoolRequest.decoder)
    Engine.createPool limits .enforce spec
  | .getPool id => respondWith 200 Pool.json (Engine.getPool id)
  | .updatePool id => respondWith 200 Pool.json do
    let patch ← Action.valid (request.decode PoolPatch.decoder)
    Engine.updatePool id patch
  | .subnets id => respondWith 200 (fun json => json) do
    let params ← Action.valid request.pairs.windowParams
    let (pool, window) ←
      Engine.subnets id params.length.toNat params.offset (windowLimit params.limit)
    return windowJson params pool window
  | .ancestors id => respondWith 200 (Value.list Pool.json) (Engine.ancestors id)
  | .audit => respondWith 200 (Value.list Violation.json) Engine.auditPools
  | .checkPlan => respondWith 200 Plan.CheckResponse.json do
    let plan ← Action.valid (request.decode Plan.CheckRequest.decoder)
    Engine.checkPlan limits plan
  | .applyPlan => respondWith 200 Plan.Report.json do
    let plan ← Action.valid (request.decode Plan.Request.decoder)
    Engine.applyPlan limits plan
  | .search => respondWith 200 Search.Response.json do
    let params ← Action.valid request.pairs.searchParams
    Engine.search limits params

/-- The response to a request; one to `HEAD` has no body. -/
def respond (limits : Limits) (request : Request) : Script Response := do
  let response ←
    match request.operation with
    | .ok operation => run limits request operation
    | .error stray => pure (.ofStray stray)
  return if request.method = .head then .empty response.status else response

end AddressPlan.Http
