import AddressPlan.Refusal
/-!
# Limits

The bounds that requests are held to: lengths of pool prefixes, length of names, sizes of search
pages. Each can be overridden by a variable; the result of overriding is checked as a whole.
-/
namespace AddressPlan

structure Limits where
  minPrefixLength : UInt8
  maxPrefixLength : UInt8
  maxNameLength : UInt64
  defaultPageSize : UInt64
  maxPageSize : UInt64
deriving DecidableEq

namespace Limits

def standard : Limits where
  minPrefixLength := 8
  maxPrefixLength := 30
  maxNameLength := 128
  defaultPageSize := 20
  maxPageSize := 100

instance : Inhabited Limits := ⟨standard⟩

def check (l : Limits) : Except Invalid Unit :=
  if 32 < l.maxPrefixLength then
    .error (.maxLengthTooLong l.maxPrefixLength.toNat)
  else if l.maxPrefixLength < l.minPrefixLength then
    .error (.lengthsCrossed l.minPrefixLength.toNat l.maxPrefixLength.toNat)
  else if l.maxNameLength = 0 then .error .noNameLength
  else if l.defaultPageSize = 0 ∨ l.maxPageSize = 0 then .error .noPageSize
  else if l.maxPageSize < l.defaultPageSize then
    .error (.pageSizesCrossed l.defaultPageSize.toNat l.maxPageSize.toNat)
  else .ok ()

def setting {α : Type} (read : String → Except Text.NumeralError α)
    (lookup : String → Option String) (key : String) (default : α) : Except Invalid α :=
  match lookup key with
  | none => .ok default
  | some raw =>
    match read (Text.trim raw) with
    | .ok value => .ok value
    | .error cause => .error (.badSetting key raw cause)

def override (l : Limits) (lookup : String → Option String) : Except Invalid Limits := do
  let least ← setting Text.readUInt8 lookup "IPAM_MIN_PREFIX_LEN" l.minPrefixLength
  let most ← setting Text.readUInt8 lookup "IPAM_MAX_PREFIX_LEN" l.maxPrefixLength
  let name ← setting Text.readUInt64 lookup "IPAM_MAX_NAME_LEN" l.maxNameLength
  let page ← setting Text.readUInt64 lookup "IPAM_DEFAULT_PAGE_SIZE" l.defaultPageSize
  let pages ← setting Text.readUInt64 lookup "IPAM_MAX_PAGE_SIZE" l.maxPageSize
  let overridden : Limits :=
    { minPrefixLength := least
      maxPrefixLength := most
      maxNameLength := name
      defaultPageSize := page
      maxPageSize := pages }
  overridden.check
  return overridden

end Limits
end AddressPlan
