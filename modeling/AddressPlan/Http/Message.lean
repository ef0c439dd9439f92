import AddressPlan.Http.MediaType
import AddressPlan.Http.Target
import AddressPlan.Json.Value
/-!
# Requests and responses

The messages of the service, as far as they matter to it. What a client wants to send is not always
a request: the name of a method and the value of a header have to be of certain characters.
-/
namespace AddressPlan.Http
open Json (Value)

inductive Method
  | get
  | head
  | post
  | patch
  | other (name : String)
deriving DecidableEq

namespace Method

def name : Method → String
  | get => "GET"
  | head => "HEAD"
  | post => "POST"
  | patch => "PATCH"
  | other name => name

def ofName (s : String) : Method :=
  if s = "GET" then get
  else if s = "HEAD" then head
  else if s = "POST" then post
  else if s = "PATCH" then patch
  else other s

theorem name_ofName (s : String) : (ofName s).name = s := by
  unfold ofName
  repeat' split
  all_goals simp_all [name]

end Method

private def isHeaderChar (c : Char) : Bool :=
  c == '\t' || (0x20 ≤ c.toNat && c.toNat ≠ 0x7F)

structure Request where
  method : Method
  target : Target
  contentType : Option String
  body : String
deriving DecidableEq

def Request.of? (method address : String) (contentType : Option String) (body : String) :
    Option Request := do
  let target ← Target.parse? address
  if method ≠ "" ∧ method.toList.all MediaType.isToken ∧
      contentType.all (fun type => type.toList.all isHeaderChar) then
    return { method := .ofName method, target := target, contentType := contentType, body := body }
  else none

inductive Body
  | json (value : Value)
  | text (text : String)

structure Response where
  status : Nat
  body : Body

def Response.empty (status : Nat) : Response := ⟨status, .text ""⟩

end AddressPlan.Http
