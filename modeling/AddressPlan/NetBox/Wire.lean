import AddressPlan.NetBox.Client
/-!
# Prepared replies

A remote that gives out prepared replies, one for each request, and keeps the requests. It answers
only requests to its own address, and none while it cannot be reached.
-/
namespace AddressPlan.NetBox
open Json (Value)

structure Wire where
  address : String
  reachable : Bool
  replies : List Reply
  log : List Request

namespace Wire

private def path? (w : Wire) (url : String) : Option String :=
  let cs := url.toList
  if w.address.toList.isPrefixOf cs then
    match cs.drop w.address.toList.length with
    | [] => some "/"
    | '/' :: rest => some (String.ofList ('/' :: rest))
    | '?' :: rest => some (String.ofList ('/' :: '?' :: rest))
    | _ => none
  else none

private def lastReply : Reply := ⟨500, "script exhausted"⟩

private def delivered (reply : Reply) : Reply :=
  if reply.status = 204 then ⟨204, ""⟩ else reply

def exchange (request : Request) (w : Wire) : Option Reply × Wire :=
  if w.reachable ∧ (w.path? request.url).isSome then
    (some (delivered (w.replies.headD lastReply)),
      { w with replies := w.replies.tail, log := w.log ++ [request] })
  else (none, w)

/-- A listing ends with the first reply that is not prepared, at the latest. -/
def remote : Remote Wire where
  exchange := exchange
  patience w := w.replies.length + 1

def requestJson (w : Wire) (r : Request) : Value := .object (
  [("method", .string r.method.name),
    ("path", .option .string (w.path? r.url)),
    ("authorization", .string r.authorization),
    ("accept", .string r.accept)] ++
  match r.body with
  | some body => [("body", body)]
  | none => [])

end Wire
end AddressPlan.NetBox
