import AddressPlan.Json.Reader
/-!
# Decoders

A decoder takes a node for a value of some type. A fault is either malformed text or a value of
the wrong shape; where a text has both, the one that stands first is reported, so decoders go
through a node in the order of its text. A record is decoded from an object, where unknown fields
are skipped and no known one may be repeated, or from an array with the fields in their order.
-/
namespace AddressPlan.Json

inductive Fault
  | malformed
  | mismatch
deriving DecidableEq

abbrev Decoder (α : Type) : Type := Node → Except Fault α

def Node.reject : Node → Fault
  | .unusable _ => .malformed
  | _ => .mismatch

def Ending.check : Ending → Except Fault Unit
  | .closed => .ok ()
  | .unusable _ => .error .malformed

namespace Decoder

variable {α : Type}

def string : Decoder String
  | .string s => .ok s
  | n => .error n.reject

def bool : Decoder Bool
  | .bool b => .ok b
  | n => .error n.reject

def uint64 : Decoder UInt64
  | .number (.natural n) => .ok n
  | n => .error n.reject

def uint8 : Decoder UInt8
  | .number (.natural n) =>
    if n.toNat < UInt8.size then .ok (UInt8.ofNat n.toNat) else .error .mismatch
  | n => .error n.reject

def int64 : Decoder Int64
  | .number (.natural n) =>
    if n.toNat < UInt64.size / 2 then .ok (Int64.ofInt n.toNat) else .error .mismatch
  | .number (.negative n) => .ok n
  | n => .error n.reject

def count : Decoder Nat
  | .number (.natural n) => .ok n.toNat
  | n => .error n.reject

def value : Decoder Value := fun n =>
  match n.value? with
  | some v => .ok v
  | none => .error .malformed

def option (decode : Decoder α) : Decoder (Option α)
  | .null => .ok none
  | n => some <$> decode n

def orElse (decode : Decoder α) (default : α) : Decoder α
  | .null => .ok default
  | n => decode n

def reading (read : String → Option α) : Decoder α := fun n => do
  match read (← string n) with
  | some a => .ok a
  | none => .error .mismatch

def items (decode : Decoder α) : List Node → Except Fault (List α)
  | [] => .ok []
  | n :: ns => do
    let a ← decode n
    return a :: (← items decode ns)

def list (decode : Decoder α) : Decoder (List α)
  | .array ns ending => do
    let as ← items decode ns
    ending.check
    return as
  | n => .error n.reject

def fields (decode : Decoder α) : List (String × Node) → Except Fault (List (String × α))
  | [] => .ok []
  | (k, n) :: fs => do
    let a ← decode n
    return (k, a) :: (← fields decode fs)

/-- Of repeated names the last counts. -/
def named (decode : Decoder α) : Decoder (Named α)
  | .object fs ending => do
    let as ← fields decode fs
    ending.check
    return .ofList as
  | n => .error n.reject

/-- One of a closed list of names, given as a text or as an object with that one field, which
is null. -/
def name (ofName? : String → Option α) : Decoder α
  | .string s =>
    match ofName? s with
    | some a => .ok a
    | none => .error .mismatch
  | .object [(s, .null)] .closed =>
    match ofName? s with
    | some a => .ok a
    | none => .error .mismatch
  | .object _ ending => .error (if ending.skippable then .mismatch else .malformed)
  | n => .error n.reject

end Decoder

inductive Presence
  | required
  /-- In an object only. -/
  | optional
  /-- In an object, and at the end of an array. -/
  | defaulted
deriving DecidableEq

structure Field where
  name : String
  presence : Presence
  check : Node → Except Fault Unit

/-- The fields of a record, in the order of its declaration, and how it is built from their
nodes. -/
structure Record (α : Type) where
  fields : List Field
  build : (String → Option Node) → Except Fault α

namespace Record

variable {α β : Type}

def pure (a : α) : Record α := ⟨[], fun _ => .ok a⟩

def seq (f : Record (α → β)) (a : Record α) : Record β where
  fields := f.fields ++ a.fields
  build look := do
    let g ← f.build look
    let x ← a.build look
    return g x

def map (f : α → β) (a : Record α) : Record β where
  fields := a.fields
  build look := f <$> a.build look

instance : Functor Record := ⟨map, fun a => map fun _ => a⟩

instance : Seq Record := ⟨fun f a => seq f (a ())⟩

/-- The record of a single field; `absent` answers for it where it is left out. -/
def field (name : String) (presence : Presence) (decode : Decoder α) (absent : Except Fault α) :
    Record α where
  fields := [⟨name, presence, fun n => (decode n).map fun _ => ()⟩]
  build look :=
    match look name with
    | some n => decode n
    | none => absent

def required (name : String) (decode : Decoder α) : Record α :=
  field name .required decode (.error .mismatch)

def optional (name : String) (decode : Decoder α) : Record (Option α) :=
  field name .optional (Decoder.option decode) (.ok none)

def omissible (name : String) (decode : Decoder α) : Record (Option α) :=
  field name .defaulted (Decoder.option decode) (.ok none)

def defaulted (name : String) (decode : Decoder α) (default : α) : Record α :=
  field name .defaulted decode (.ok default)

/-- Checks the fields of an object in the order of the text; `seen` are the known ones so far. -/
def checkFields (known : List Field) (seen : List String) :
    List (String × Node) → Except Fault Unit
  | [] => .ok ()
  | (k, n) :: fields =>
    match known.find? (·.name = k) with
    | some field =>
      if k ∈ seen then .error .mismatch
      else do
        field.check n
        checkFields known (k :: seen) fields
    | none => if n.skippable then checkFields known seen fields else .error .malformed

def checkItems (ending : Ending) : List Field → List Node → Except Fault Unit
  | [], [] => ending.check
  | [], _ :: _ => .error .malformed
  | field :: fields, [] =>
    match ending with
    | .unusable _ => .error .malformed
    | .closed =>
      if field.presence = .defaulted then checkItems ending fields [] else .error .mismatch
  | field :: fields, n :: ns => do
    field.check n
    checkItems ending fields ns

def lookup (fields : List (String × Node)) (name : String) : Option Node :=
  (fields.find? (·.1 = name)).map Prod.snd

def decode (r : Record α) : Decoder α
  | .object fields ending => do
    checkFields r.fields [] fields
    ending.check
    r.build (lookup fields)
  | .array ns ending => do
    checkItems ending r.fields ns
    r.build (lookup ((r.fields.map Field.name).zip ns))
  | n => .error n.reject

end Record

/-- Null in the place of an empty object that is the only field of an object. -/
def Node.loosen : Node → Node
  | .object [(k, .object [] .closed)] .closed => .object [(k, .null)] .closed
  | n => n

/-- Decodes one of several records by the name in the field `tag`, or in the first place of an
array. All of the node has to be usable. Within the record the field of a name may be an empty
object instead of null. -/
def tagged {α : Type} (tag : String) (variants : String → Option (Decoder α)) :
    Decoder α := fun n =>
  if n.value?.isNone then .error .malformed
  else
    let variant (name : String) (rest : Node) : Except Fault α :=
      match variants name with
      | some decode => decode rest
      | none => .error .mismatch
    match n with
    | .object fields ending =>
      match fields.filter (·.1 = tag) with
      | [(_, .string name)] =>
        let others := fields.filter (·.1 ≠ tag)
        variant name (.object (others.map fun (k, n) => (k, n.loosen)) ending)
      | _ => .error .mismatch
    | .array (.string name :: ns) ending => variant name (.array (ns.map Node.loosen) ending)
    | n => .error n.reject

/-- Decodes a whole text. White space may follow the value, and nothing else. -/
def decodeText {α : Type} (decode : Decoder α) (s : String) : Except Fault α := do
  let (n, ends) := readDocument s.toList
  let a ← decode n
  if ends then return a else throw .malformed

end AddressPlan.Json
