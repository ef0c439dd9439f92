import AddressPlan.Search.Query
import AddressPlan.Text.Percent
/-!
# Parameters in queries

A known name may stand once in a query, and unknown ones do no harm. A number has to be written
out: an empty text is none.
-/
namespace AddressPlan.Http

structure WindowParams where
  length : UInt8
  offset : UInt64
  limit : Option UInt64
deriving DecidableEq

abbrev Pairs : Type := List (String × String)

namespace Pairs

def single? (pairs : Pairs) (name : String) : Except Invalid (Option String) :=
  match pairs.filter (·.1 = name) with
  | [] => .ok none
  | [(_, value)] => .ok (some value)
  | _ => .error (.message .badQuery)

def reading {α : Type} (pairs : Pairs) (name : String) (read : String → Option α) :
    Except Invalid (Option α) := do
  match ← pairs.single? name with
  | none => return none
  | some value =>
    match read value with
    | some a => return some a
    | none => throw (.message .badQuery)

def windowParams (pairs : Pairs) : Except Invalid WindowParams := do
  let length ← pairs.reading "prefix_len" fun s => (Text.readUInt8 s).toOption
  let offset ← pairs.reading "offset" fun s => (Text.readUInt64 s).toOption
  let limit ← pairs.reading "limit" fun s => (Text.readUInt64 s).toOption
  match length with
  | some length => return { length := length, offset := offset.getD 0, limit := limit }
  | none => throw (.message .badQuery)

def searchParams (pairs : Pairs) : Except Invalid Search.Params := do
  return {
    text := ← pairs.single? "q"
    cidrContains := ← pairs.single? "cidr_contains"
    cidrWithin := ← pairs.single? "cidr_within"
    entity := ← pairs.single? "type"
    page := ← pairs.reading "page" Text.readInt64?
    pageSize := ← pairs.reading "page_size" Text.readInt64? }

end Pairs
end AddressPlan.Http
