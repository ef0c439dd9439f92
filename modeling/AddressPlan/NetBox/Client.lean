import AddressPlan.Http.Message
import AddressPlan.NetBox.Record
import AddressPlan.Store.Token
import AddressPlan.Text.Percent
import AddressPlan.Text.Quoted
/-!
# Talking to a NetBox server

Requests, replies, and the exchanges that the store is made of. What is at the other end is a
`Remote`: it may be any function from a request and a state to a reply. A token that has fired
ends an exchange before anything is sent.
-/
namespace AddressPlan.NetBox
open Http (Method)
open Json (Value Decoder)

structure Request where
  method : Method
  url : String
  authorization : String
  accept : String
  body : Option Value

structure Reply where
  status : Nat
  body : String
deriving DecidableEq

/-- The other end of a line, with states `σ`. -/
structure Remote (σ : Type) where
  /-- The reply to a request, if there comes one. -/
  exchange : Request → σ → Option Reply × σ
  /-- For how many pages of a listing a caller waits. -/
  patience : σ → Nat

/-- A line to a remote, under a token. -/
structure Line (σ : Type) where
  state : σ
  token : Token
deriving DecidableEq

/-- Exchanges over a line, which may fail. -/
abbrev Exchange (σ α : Type) : Type := ExceptT Failure (StateM (Line σ)) α

/-- Where the server is, and the key that it lets in. -/
structure Client where
  /-- The address that paths are appended to. -/
  base : String
  key : String
deriving DecidableEq

namespace Client

def of (address key : String) : Client :=
  ⟨String.ofList (address.toList.reverse.dropWhile (· = '/')).reverse, key⟩

/-- The address of a path; a path that is an address already stays as it is. -/
def url (c : Client) (path : String) : String :=
  if "http".toList.isPrefixOf path.toList then path else c.base ++ path

/-- A text for logs, without the key. -/
def text (c : Client) : String :=
  "HttpClient \x7b base_url: " ++ Text.quote c.base ++ ", .. \x7d"

def request (c : Client) (method : Method) (path : String) (body : Option Value) : Request where
  method := method
  url := c.url path
  authorization := "Token " ++ c.key
  accept := "application/json"
  body := body

end Client

variable {σ α : Type}

def send (remote : Remote σ) (request : Request) : Exchange σ Reply := ExceptT.mk fun line =>
  let ticked := { line with token := line.token.tick }
  if line.token.hasFired then (.error .cancelled, ticked)
  else
    let (reply?, state) := remote.exchange request line.state
    (match reply? with
      | some reply => .ok reply
      | none => .error .http, { ticked with state := state })

def Reply.decode (decoder : Decoder α) (context : String) (reply : Reply) : Except Failure α :=
  if Http.isSuccess reply.status then
    (Json.decodeText decoder reply.body).mapError fun _ => .undecodable reply.body
  else .error (.ofRejection ⟨context, reply.status, reply.body⟩)

def ask (remote : Remote σ) (decoder : Decoder α) (context : String) (request : Request) :
    Exchange σ α := do
  let reply ← send remote request
  ExceptT.mk (pure (reply.decode decoder context))

def call (client : Client) (remote : Remote σ) (decoder : Decoder α) (method : Method)
    (path : String) (body : Option Value) : Exchange σ α :=
  ask remote decoder (method.name ++ " " ++ path) (client.request method path body)

def getOptional (client : Client) (remote : Remote σ) (decoder : Decoder α) (path : String) :
    Exchange σ (Option α) := ExceptT.mk do
  match ← (call client remote decoder .get path none).run with
  | .ok a => return .ok (some a)
  | .error (.notFound _) => return .ok none
  | .error failure => return .error failure

/-- The results on the page at `path` and on those behind it, if they are at most `fuel` pages. -/
def fetchFrom (client : Client) (remote : Remote σ) (decoder : Decoder α) :
    Nat → String → Exchange σ (List α)
  | 0, _ => throw .endless
  | fuel + 1, path => do
    let page ← ask remote (Page.record decoder).decode "Failed to fetch page"
      (client.request .get path none)
    match page.next with
    | none => return page.results
    | some next => return page.results ++ (← fetchFrom client remote decoder fuel next)

def fetchAll (client : Client) (remote : Remote σ) (decoder : Decoder α) (path : String) :
    Exchange σ (List α) := do
  let line ← get
  fetchFrom client remote decoder (remote.patience line.state) path

def checkStatus (client : Client) (remote : Remote σ) : Exchange σ Unit := do
  let _ ← call client remote Decoder.value .get "/api/status/" none

end AddressPlan.NetBox
