import AddressPlan.Http.Status
import AddressPlan.Prefix.Literal
import AddressPlan.Refusal
import AddressPlan.Text.Lowercase
/-!
# Failures of a NetBox server

What can go wrong between a request to the server and a usable record, and the refusal that
callers of the store see instead.
-/
namespace AddressPlan.NetBox

/-- A reply that was not a success, with the request it answers. -/
structure Rejection where
  context : String
  status : Nat
  body : String
deriving DecidableEq

def Rejection.text (r : Rejection) : String :=
  r.context ++ " - " ++ Http.statusText r.status ++ " - " ++ r.body

inductive Failure
  /-- There was no reply. -/
  | http
  | api (rejection : Rejection)
  /-- The body of a success could not be decoded. -/
  | undecodable (body : String)
  | authentication (rejection : Rejection)
  | notFound (rejection : Rejection)
  | invalidRequest (rejection : Rejection)
  | conflict (rejection : Rejection)
  /-- A stored record is no pool. -/
  | malformed (id : UInt64) (cause : Prefix.LiteralError)
  /-- A listing went on past the number of pages that were waited for: it may still be going on. -/
  | endless
  | cancelled
deriving DecidableEq

namespace Failure

/-- The server reports a taken name as a bad request whose text says so. -/
def saysTaken (body : String) : Bool :=
  let lowered := (Text.lowercase body).toList
  ["already exists", "must be unique", "duplicate"].any fun phrase =>
    Text.occursIn phrase.toList lowered

def ofRejection (r : Rejection) : Failure :=
  if r.status = 404 then notFound r
  else if r.status = 401 ∨ r.status = 403 then authentication r
  else if r.status = 400 then if saysTaken r.body then conflict r else invalidRequest r
  else api r

def name : Failure → String
  | http => "http"
  | api _ => "api"
  | undecodable _ => "api"
  | authentication _ => "authentication"
  | notFound _ => "not_found"
  | invalidRequest _ => "invalid_request"
  | conflict _ => "conflict"
  | malformed .. => "malformed"
  | endless => "endless"
  | cancelled => "cancelled"

def message : Failure → String
  | http => "HTTP error"
  | api r => "NetBox API error: " ++ r.text
  | undecodable body =>
    "NetBox API error: error decoding response body: <json> - Response (first 500 chars): " ++
      String.ofList (body.toList.take 500)
  | authentication r => "Authentication failed: " ++ r.text
  | notFound r => "Not found: " ++ r.text
  | invalidRequest r => "Invalid request: " ++ r.text
  | conflict r => "Already exists: " ++ r.text
  | malformed id cause =>
    "Malformed record: prefix " ++ id.toNat.repr ++ ": Validation error: " ++ cause.message
  | endless => "Listing without an end"
  | cancelled => "Request cancelled"

def refusal : Failure → Refusal
  | notFound r => .absent (.remote r.text)
  | invalidRequest r => .invalid (.remote r.text)
  | conflict r => .clash (.remote r.text)
  | cancelled => .cancelled
  | failure => .storage failure.message

end Failure
end AddressPlan.NetBox
