import AddressPlan.Calendar.Timestamp
import AddressPlan.Json.Decoder
import AddressPlan.Limits
import AddressPlan.Prefix.Window
/-!
# JSON forms of the basic types

Prefixes and timestamps are strings, names of closed lists are strings, limits and conflicts are
objects. For each type that is also read, the decoder stands beside the encoder.
-/
namespace AddressPlan
open Json (Value Decoder Record)

namespace Prefix

def json (p : Prefix) : Value := .string p.text

def decoder : Decoder Prefix :=
  Decoder.reading fun s => (parse s).toOption

def Window.json (w : Window) : Value := .object [
  ("blocks", .list Prefix.json w.blocks),
  ("usable_hosts", .nat w.usableHosts),
  ("total", .nat w.total)]

end Prefix

namespace Instant

def json (t : Instant) : Value := .string t.text

def decoder : Decoder Instant :=
  Decoder.reading readLenient?

end Instant

namespace PoolKind

def json (k : PoolKind) : Value := .string k.name

def decoder : Decoder PoolKind := Decoder.name ofName?

end PoolKind

namespace PoolStatus

def json (k : PoolStatus) : Value := .string k.name

def decoder : Decoder PoolStatus := Decoder.name ofName?

end PoolStatus

namespace PoolSource

def json (k : PoolSource) : Value := .string k.name

def decoder : Decoder PoolSource := Decoder.name ofName?

end PoolSource

namespace OverlapKind

def json (k : OverlapKind) : Value := .string k.name

def decoder : Decoder OverlapKind := Decoder.name ofName?

end OverlapKind

namespace Tags

def json (tags : Tags) : Value := .named .string tags

def decoder : Decoder Tags := Decoder.named Decoder.string

end Tags

namespace Limits

def json (l : Limits) : Value := .object [
  ("min_prefix_len", .count l.minPrefixLength.toNat),
  ("max_prefix_len", .count l.maxPrefixLength.toNat),
  ("max_name_len", .nat l.maxNameLength),
  ("default_page_size", .nat l.defaultPageSize),
  ("max_page_size", .nat l.maxPageSize)]

def record : Record Limits :=
  Limits.mk <$> .defaulted "min_prefix_len" Decoder.uint8 standard.minPrefixLength
    <*> .defaulted "max_prefix_len" Decoder.uint8 standard.maxPrefixLength
    <*> .defaulted "max_name_len" Decoder.uint64 standard.maxNameLength
    <*> .defaulted "default_page_size" Decoder.uint64 standard.defaultPageSize
    <*> .defaulted "max_page_size" Decoder.uint64 standard.maxPageSize

def decoder : Decoder Limits := record.decode

end Limits

namespace Conflict

def json (c : Conflict) : Value := .object [
  ("planned_cidr", c.plannedCidr.json),
  ("planned_name", .string c.plannedName),
  ("existing_pool_id", .nat c.existingId),
  ("existing_pool_name", .string c.existingName),
  ("existing_cidr", c.existingCidr.json),
  ("overlap_type", c.overlap.json)]

def record : Record Conflict :=
  Conflict.mk <$> .required "planned_cidr" Prefix.decoder
    <*> .required "planned_name" Decoder.string
    <*> .required "existing_pool_id" Decoder.uint64
    <*> .required "existing_pool_name" Decoder.string
    <*> .required "existing_cidr" Prefix.decoder
    <*> .required "overlap_type" OverlapKind.decoder

def decoder : Decoder Conflict := record.decode

end Conflict
end AddressPlan
