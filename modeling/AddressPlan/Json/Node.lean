import AddressPlan.Json.Value
/-!
# What a JSON text spells

A node is what a text spells at some place, as far as it spells anything. Objects keep their
fields in the order of the text, repeated ones included. A part that cannot be used, because of
half a surrogate pair, a number beyond the doubles or too deep a nesting, is marked as such and
does no harm where it is skipped; a part that is no JSON at all ends the reading.
-/
namespace AddressPlan.Json

/-- How the text of an array or an object ends. -/
inductive Ending
  | closed
  /-- Something follows that cannot be used; it may still be skipped. -/
  | unusable (skippable : Bool)
deriving DecidableEq

def Ending.skippable : Ending → Bool
  | closed => true
  | unusable skippable => skippable

inductive Node
  | null
  | bool (b : Bool)
  | number (n : Number)
  | string (s : String)
  | array (items : List Node) (ending : Ending)
  | object (fields : List (String × Node)) (ending : Ending)
  | unusable (skippable : Bool)

namespace Node

instance : Inhabited Node := ⟨null⟩

/-- The text of the node is no JSON, so that nothing can be read behind it. -/
def stops : Node → Bool
  | array _ ending => !ending.skippable
  | object _ ending => !ending.skippable
  | unusable skippable => !skippable
  | _ => false

mutual

/-- The text of the node is well formed, whether or not it can be used. -/
def skippable : Node → Bool
  | array items ending => ending.skippable && itemsSkippable items
  | object fields ending => ending.skippable && fieldsSkippable fields
  | unusable skippable => skippable
  | _ => true

def itemsSkippable : List Node → Bool
  | [] => true
  | n :: ns => n.skippable && itemsSkippable ns

def fieldsSkippable : List (String × Node) → Bool
  | [] => true
  | (_, n) :: fields => n.skippable && fieldsSkippable fields

end

/-- Fields in the order of their names; of repeated ones the last counts. -/
def ordered (fields : List (String × Value)) : List (String × Value) :=
  fields.foldl (fun rows field => insertRow Prod.fst field rows) []

mutual

/-- The value that a node spells, if all of it can be used. Of repeated fields the last counts,
and the fields come in the order of their names. -/
def value? : Node → Option Value
  | null => some .null
  | bool b => some (.bool b)
  | number n => some (.number n)
  | string s => some (.string s)
  | array items .closed => (itemsValue? items).map .array
  | object fields .closed =>
    (fieldsValue? fields).map fun fields => .object (ordered fields)
  | _ => none

def itemsValue? : List Node → Option (List Value)
  | [] => some []
  | n :: ns => do
    let v ← n.value?
    let vs ← itemsValue? ns
    return v :: vs

def fieldsValue? : List (String × Node) → Option (List (String × Value))
  | [] => some []
  | (k, n) :: fields => do
    let v ← n.value?
    let vs ← fieldsValue? fields
    return (k, v) :: vs

end

mutual

def ofValue : Value → Node
  | .null => null
  | .bool b => bool b
  | .number n => number n
  | .string s => string s
  | .array items => array (ofItems items) .closed
  | .object fields => object (ofFields fields) .closed

def ofItems : List Value → List Node
  | [] => []
  | v :: vs => ofValue v :: ofItems vs

def ofFields : List (String × Value) → List (String × Node)
  | [] => []
  | (k, v) :: fields => (k, ofValue v) :: ofFields fields

end

end Node
end AddressPlan.Json
