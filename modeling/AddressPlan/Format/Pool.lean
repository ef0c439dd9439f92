import AddressPlan.Ancestry
import AddressPlan.Format.Basic
import AddressPlan.Validation
/-!
# JSON forms of pools

Pools, drafts and accounts, the requests that make and change pools, and the findings of an
audit.
-/
namespace AddressPlan
open Json (Value Decoder Record)

namespace Pool

def fields (p : Pool) : List (String × Value) := [
  ("id", .nat p.id),
  ("name", .string p.name),
  ("cidr", p.cidr.json),
  ("type", p.kind.json),
  ("status", p.status.json),
  ("parent_id", .option .nat p.parent),
  ("source", p.source.json),
  ("description", .string p.description),
  ("tags", Tags.json p.tags),
  ("created_at", p.createdAt.json),
  ("updated_at", p.updatedAt.json)]

def json (p : Pool) : Value := .object p.fields

def record : Record Pool :=
  Pool.mk <$> .required "id" Decoder.uint64
    <*> .required "name" Decoder.string
    <*> .required "cidr" Prefix.decoder
    <*> .required "type" PoolKind.decoder
    <*> .required "status" PoolStatus.decoder
    <*> .optional "parent_id" Decoder.uint64
    <*> .required "source" PoolSource.decoder
    <*> .defaulted "description" Decoder.string ""
    <*> .defaulted "tags" Tags.decoder .empty
    <*> .required "created_at" Instant.decoder
    <*> .required "updated_at" Instant.decoder

def decoder : Decoder Pool := record.decode

end Pool

namespace PoolDraft

def json (d : PoolDraft) : Value := .object [
  ("name", .string d.name),
  ("cidr", d.cidr.json),
  ("type", d.kind.json),
  ("status", d.status.json),
  ("parent_id", .option .nat d.parent),
  ("source", d.source.json),
  ("description", .string d.description),
  ("tags", Tags.json d.tags)]

end PoolDraft

namespace Account

def fields (a : Account) : List (String × Value) := [
  ("id", .nat a.id),
  ("key", .string a.key),
  ("name", .string a.name),
  ("provider", .string a.provider),
  ("cidr", .option Prefix.json a.cidr),
  ("description", .string a.description)]

def json (a : Account) : Value := .object a.fields

def record : Record Account :=
  Account.mk <$> .required "id" Decoder.uint64
    <*> .required "key" Decoder.string
    <*> .required "name" Decoder.string
    <*> .defaulted "provider" Decoder.string ""
    <*> .omissible "cidr" Prefix.decoder
    <*> .defaulted "description" Decoder.string ""

def decoder : Decoder Account := record.decode

end Account

namespace PoolRequest

def json (r : PoolRequest) : Value := .object [
  ("name", .string r.name),
  ("cidr", .string r.cidr),
  ("type", .option .string r.kind),
  ("status", .option .string r.status),
  ("parent_id", .option .nat r.parent),
  ("source", .option .string r.source),
  ("description", .option .string r.description),
  ("tags", Tags.json r.tags)]

def record : Record PoolRequest :=
  PoolRequest.mk <$> .required "name" Decoder.string
    <*> .required "cidr" Decoder.string
    <*> .omissible "type" Decoder.string
    <*> .omissible "status" Decoder.string
    <*> .omissible "parent_id" Decoder.uint64
    <*> .omissible "source" Decoder.string
    <*> .omissible "description" Decoder.string
    <*> .defaulted "tags" (Decoder.orElse Tags.decoder .empty) .empty

def decoder : Decoder PoolRequest := record.decode

end PoolRequest

namespace PoolPatch

def json (p : PoolPatch) : Value := .object [
  ("status", .option .string p.status),
  ("description", .option .string p.description),
  ("tags", .option Tags.json p.tags)]

def record : Record PoolPatch :=
  PoolPatch.mk <$> .omissible "status" Decoder.string
    <*> .omissible "description" Decoder.string
    <*> .omissible "tags" Tags.decoder

def decoder : Decoder PoolPatch := record.decode

end PoolPatch

namespace Violation

def json (v : Violation) : Value := .object [
  ("pool_id", .nat v.id),
  ("pool_name", .string v.name),
  ("pool_cidr", v.cidr.json),
  ("other_pool_id", .nat v.otherId),
  ("other_pool_name", .string v.otherName),
  ("other_cidr", v.otherCidr.json),
  ("overlap_type", v.overlap.json)]

def record : Record Violation :=
  Violation.mk <$> .required "pool_id" Decoder.uint64
    <*> .required "pool_name" Decoder.string
    <*> .required "pool_cidr" Prefix.decoder
    <*> .required "other_pool_id" Decoder.uint64
    <*> .required "other_pool_name" Decoder.string
    <*> .required "other_cidr" Prefix.decoder
    <*> .required "overlap_type" OverlapKind.decoder

def decoder : Decoder Violation := record.decode

end Violation
end AddressPlan
