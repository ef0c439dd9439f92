import AddressPlan.Format.Pool
import AddressPlan.Plan.Basic
/-!
# JSON forms of plans

Entries leave out what is absent or empty; requests and reports write every field.
-/
namespace AddressPlan.Plan
open Json (Value Decoder Record)

def present (name : String) : Option String → List (String × Value)
  | none => []
  | some s => [(name, .string s)]

namespace Entry

def json (e : Entry) : Value := .object (
  [("ref", .string e.ref), ("name", .string e.name), ("cidr", .string e.cidr)] ++
  present "type" e.kind ++ present "parent_ref" e.parentRef ++
  present "description" e.description ++
  if e.tags.isEmpty then [] else [("tags", Tags.json e.tags)])

def record : Record Entry :=
  Entry.mk <$> .defaulted "ref" Decoder.string ""
    <*> .defaulted "name" Decoder.string ""
    <*> .defaulted "cidr" Decoder.string ""
    <*> .omissible "type" Decoder.string
    <*> .omissible "parent_ref" Decoder.string
    <*> .omissible "description" Decoder.string
    <*> .defaulted "tags" (Decoder.orElse Tags.decoder .empty) .empty

def decoder : Decoder Entry := record.decode

end Entry

namespace Request

def json (r : Request) : Value := .object [
  ("pools", .list Entry.json r.entries),
  ("status", .option .string r.status),
  ("tags", Tags.json r.tags),
  ("skip_conflicts", .bool r.skipConflicts)]

def record : Record Request :=
  Request.mk <$> .defaulted "pools" (Decoder.orElse (Decoder.list Entry.decoder) []) []
    <*> .omissible "status" Decoder.string
    <*> .defaulted "tags" (Decoder.orElse Tags.decoder .empty) .empty
    <*> .defaulted "skip_conflicts" (Decoder.orElse Decoder.bool false) false

def decoder : Decoder Request := record.decode

end Request

namespace Report

def json (r : Report) : Value := .object [
  ("created", .count r.created),
  ("skipped", .count r.skipped),
  ("errors", .list .string r.errors),
  ("warnings", .list .string r.warnings),
  ("root_pool_id", .option .nat r.root),
  ("pool_map", .named .nat r.pools)]

def record : Record Report :=
  Report.mk <$> .required "created" Decoder.count
    <*> .required "skipped" Decoder.count
    <*> .required "errors" (Decoder.list Decoder.string)
    <*> .required "warnings" (Decoder.list Decoder.string)
    <*> .optional "root_pool_id" Decoder.uint64
    <*> .required "pool_map" (Decoder.named Decoder.uint64)

def decoder : Decoder Report := record.decode

end Report

namespace CheckRequest

def json (r : CheckRequest) : Value := .object [("pools", .list Entry.json r.entries)]

def record : Record CheckRequest :=
  CheckRequest.mk <$> .defaulted "pools" (Decoder.orElse (Decoder.list Entry.decoder) []) []

def decoder : Decoder CheckRequest := record.decode

end CheckRequest

namespace CheckResponse

def json (r : CheckResponse) : Value := .object [
  ("conflicts", .list Conflict.json r.conflicts),
  ("total_pools", .count r.totalPools),
  ("conflict_count", .count r.conflictCount)]

def record : Record CheckResponse :=
  CheckResponse.mk <$> .required "conflicts" (Decoder.list Conflict.decoder)
    <*> .required "total_pools" Decoder.count
    <*> .required "conflict_count" Decoder.count

def decoder : Decoder CheckResponse := record.decode

end CheckResponse
end AddressPlan.Plan
