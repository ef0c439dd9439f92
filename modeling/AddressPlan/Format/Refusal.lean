import AddressPlan.Format.Basic
/-!
# JSON form of a refusal

The kind, the message, and the list of conflicts where there are any.
-/
namespace AddressPlan.Refusal
open Json (Value)

def json (r : Refusal) : Value := .object (
  [("error", .string r.kind.name), ("message", .string r.message)] ++
  if r.conflicts.isEmpty then [] else [("conflicts", .list Conflict.json r.conflicts)])

end AddressPlan.Refusal
