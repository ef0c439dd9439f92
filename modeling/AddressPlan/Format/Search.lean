import AddressPlan.Format.Pool
import AddressPlan.Search.Matches
/-!
# JSON forms of searches

An item found is a pool or an account with one more field, which says which of the two it is.
-/
namespace AddressPlan.Search
open Json (Value Decoder Record)

def integer (n : Int64) : Value :=
  if n < 0 then .number (.negative n) else .nat n.toUInt64

namespace Entity

def json (e : Entity) : Value := .string e.name

def decoder : Decoder Entity := Decoder.name ofName?

end Entity

namespace Params

def json (p : Params) : Value := .object [
  ("q", .option .string p.text),
  ("cidr_contains", .option .string p.cidrContains),
  ("cidr_within", .option .string p.cidrWithin),
  ("type", .option .string p.entity),
  ("page", .option integer p.page),
  ("page_size", .option integer p.pageSize)]

def record : Record Params :=
  Params.mk <$> .omissible "q" Decoder.string
    <*> .omissible "cidr_contains" Decoder.string
    <*> .omissible "cidr_within" Decoder.string
    <*> .omissible "type" Decoder.string
    <*> .omissible "page" Decoder.int64
    <*> .omissible "page_size" Decoder.int64

def decoder : Decoder Params := record.decode

end Params

def Query.json (q : Query) : Value := .object [
  ("text", .option .string q.text),
  ("cidr_contains", .option Prefix.json q.cidrContains),
  ("cidr_within", .option Prefix.json q.cidrWithin),
  ("entity_type", .option Entity.json q.entity),
  ("page", .nat q.page),
  ("page_size", .nat q.pageSize)]

namespace Item

def json : Item → Value
  | pool p => .object (("entity_type", Entity.json .pool) :: p.fields)
  | account a => .object (("entity_type", Entity.json .account) :: a.fields)

private def variant (name : String) : Option (Decoder Item) :=
  (Entity.ofName? name).map fun
    | .pool => fun n => Item.pool <$> Pool.decoder n
    | .account => fun n => Item.account <$> Account.decoder n

def decoder : Decoder Item := Json.tagged "entity_type" variant

end Item

namespace Response

def json (r : Response) : Value := .object [
  ("items", .list Item.json r.items),
  ("total", .count r.total),
  ("page", .nat r.page),
  ("page_size", .nat r.pageSize)]

def record : Record Response :=
  Response.mk <$> .required "items" (Decoder.list Item.decoder)
    <*> .required "total" Decoder.count
    <*> .required "page" Decoder.uint64
    <*> .required "page_size" Decoder.uint64

def decoder : Decoder Response := record.decode

end Response
end AddressPlan.Search
