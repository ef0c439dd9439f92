import AddressPlan.Calendar.Timestamp
import AddressPlan.Json.Decoder
import AddressPlan.NetBox.Failure
import AddressPlan.Validation
/-!
# Records of a NetBox server

A pool is kept as a prefix record and an account as a tenant. What the server has no field for
stands in custom fields, which have to be set up before. A record that was made elsewhere may lack
any of them, so reading one falls back on what the record has.
-/
namespace AddressPlan.NetBox
open Json (Value Decoder Record)

/-- A choice field; the server sends an object and takes a plain text. -/
inductive Choice
  | labeled (value : String)
  | plain (value : String)
deriving DecidableEq

namespace Choice

def value : Choice → String
  | labeled v => v
  | plain v => v

def json : Choice → Value
  | labeled v => .object [("value", .string v)]
  | plain v => .string v

/-- An object counts by its field `value`; all of it has to be usable. -/
def decoder : Decoder Choice := fun n =>
  match n with
  | .string s => .ok (plain s)
  | .object fields _ =>
    if n.value?.isNone then .error .malformed
    else
      match fields.filter (·.1 = "value") with
      | [(_, .string v)] => .ok (labeled v)
      | _ => .error .mismatch
  | n => .error n.reject

end Choice

structure PrefixRecord where
  id : UInt64
  cidr : String
  status : Choice
  description : String
  customFields : Value
  created : Option String
  lastUpdated : Option String

structure Tenant where
  id : UInt64
  name : String
  slug : String
  description : String
  customFields : Value

structure Page (α : Type) where
  count : UInt64
  next : Option String
  previous : Option String
  results : List α

namespace PrefixRecord

def json (r : PrefixRecord) : Value := .object [
  ("id", .nat r.id),
  ("prefix", .string r.cidr),
  ("status", r.status.json),
  ("description", .string r.description),
  ("custom_fields", r.customFields),
  ("created", .option .string r.created),
  ("last_updated", .option .string r.lastUpdated)]

def record : Record PrefixRecord :=
  PrefixRecord.mk <$> .required "id" Decoder.uint64
    <*> .required "prefix" Decoder.string
    <*> .required "status" Choice.decoder
    <*> .defaulted "description" Decoder.string ""
    <*> .defaulted "custom_fields" Decoder.value .null
    <*> .omissible "created" Decoder.string
    <*> .omissible "last_updated" Decoder.string

def decoder : Decoder PrefixRecord := record.decode

end PrefixRecord

namespace Tenant

def json (t : Tenant) : Value := .object [
  ("id", .nat t.id),
  ("name", .string t.name),
  ("slug", .string t.slug),
  ("description", .string t.description),
  ("custom_fields", t.customFields)]

def record : Record Tenant :=
  Tenant.mk <$> .required "id" Decoder.uint64
    <*> .required "name" Decoder.string
    <*> .required "slug" Decoder.string
    <*> .defaulted "description" Decoder.string ""
    <*> .defaulted "custom_fields" Decoder.value .null

def decoder : Decoder Tenant := record.decode

end Tenant

def Page.record {α : Type} (decode : Decoder α) : Record (Page α) :=
  Page.mk <$> .required "count" Decoder.uint64
    <*> .optional "next" Decoder.string
    <*> .optional "previous" Decoder.string
    <*> .required "results" (Decoder.list decode)

/-- The status that the server keeps for a status of pools. -/
def statusName : PoolStatus → String
  | .planned => "reserved"
  | .active => "active"
  | .deprecated => "deprecated"

/-- A container counts as active, and a status that pools do not have as planned. -/
def statusOf (name : String) : PoolStatus :=
  if name = "active" ∨ name = "container" then .active
  else if name = "deprecated" then .deprecated
  else .planned

def customText? (fields : Value) (key : String) : Option String :=
  match fields.field? key with
  | some (.string s) => Text.nonBlank? s
  | _ => none

/-- The text of an annotation; one that is no text is written as JSON. -/
def tagText : Value → String
  | .string s => s
  | v => v.text

def customTags (fields : Value) : Tags :=
  match fields.field? "ipam_tags" with
  | some (.object tags) => .ofList (tags.map fun (k, v) => (k, tagText v))
  | _ => .empty

def customParent? (fields : Value) : Option PoolId :=
  match fields.field? "ipam_parent_id" with
  | some (.number (.natural n)) => some n
  | some (.string s) => (Text.readUInt64 (Text.trim s)).toOption
  | _ => none

/-- A time stamp that cannot be read counts as the epoch. -/
def timestamp (text : Option String) : Instant :=
  (text.bind Instant.readStrict?).getD .epoch

/-- The pool that a prefix record stands for; there is none for a prefix of the other address
family. -/
def PrefixRecord.pool? (r : PrefixRecord) : Except Failure (Option Pool) :=
  if r.cidr.toList.contains ':' then .ok none
  else
    match Prefix.parse r.cidr with
    | .error cause => .error (.malformed r.id cause)
    | .ok cidr =>
      let fields := r.customFields
      .ok (some {
        id := r.id
        name := ((customText? fields "ipam_pool_name").or (Text.nonBlank? r.description)).getD
          r.cidr
        cidr := cidr
        kind := ((customText? fields "ipam_pool_type").bind fun t =>
          (PoolKind.read t).toOption).getD .subnet
        status := statusOf r.status.value
        parent := customParent? fields
        source := ((customText? fields "ipam_source").bind fun t =>
          (PoolSource.read t).toOption).getD .discovered
        description := r.description
        tags := customTags fields
        createdAt := timestamp r.created
        updatedAt := timestamp r.lastUpdated })

/-- The account that a tenant stands for; a prefix that cannot be read is dropped. -/
def Tenant.account (t : Tenant) : Account where
  id := t.id
  key := t.slug
  name := t.name
  provider := (customText? t.customFields "ipam_provider").getD ""
  cidr := (customText? t.customFields "ipam_account_cidr").bind fun c =>
    (Prefix.parse c).toOption
  description := t.description

def tagsValue (tags : Tags) : Value := .named .string tags

def createBody (draft : PoolDraft) : Value := .object [
  ("prefix", .string draft.cidr.text),
  ("status", .string (statusName draft.status)),
  ("description", .string draft.description),
  ("custom_fields", .object [
    ("ipam_pool_name", .string draft.name),
    ("ipam_pool_type", .string draft.kind.name),
    ("ipam_parent_id", .option .nat draft.parent),
    ("ipam_source", .string draft.source.name),
    ("ipam_tags", tagsValue draft.tags)])]

def given {α : Type} (name : String) (f : α → Value) : Option α → List (String × Value)
  | none => []
  | some a => [(name, f a)]

/-- The body of the request that changes a pool; only the fields to be changed are sent. -/
def updateBody (change : PoolUpdate) : Value := .object (
  given "status" (fun s => .string (statusName s)) change.status ++
  given "description" .string change.description ++
  given "custom_fields" (fun t => .object [("ipam_tags", tagsValue t)]) change.tags)

end AddressPlan.NetBox
