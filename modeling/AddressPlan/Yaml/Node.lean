import AddressPlan.Text.Numeral
/-!
# YAML nodes

What a file of settings spells: texts, sequences and mappings. A node may carry the number of an
anchor, and a node may stand for another one by such a number. The style of a text is kept, since
only a bare one can be a number, or one set off literally that is tagged as a number.
-/
namespace AddressPlan.Yaml

inductive Style
  | plain
  | quoted
  | literal
  | folded
deriving DecidableEq

inductive Node
  | reference (anchor : Nat)
  | scalar (anchor : Option Nat) (tag : Option String) (style : Style) (text : String)
  | sequence (anchor : Option Nat) (items : List Node)
  | mapping (anchor : Option Nat) (entries : List (Node × Node))

abbrev Anchors : Type := List (Nat × Node)

namespace Node

def absent : Node := scalar none none .plain ""

instance : Inhabited Node := ⟨absent⟩

def own (anchor : Option Nat) (node : Node) : Anchors :=
  anchor.toList.map (·, node)

mutual

def anchors : Node → Anchors
  | reference _ => []
  | scalar anchor tag style text => own anchor (scalar anchor tag style text)
  | sequence anchor items => own anchor (sequence anchor items) ++ anchorsOfItems items
  | mapping anchor entries => own anchor (mapping anchor entries) ++ anchorsOfEntries entries

private def anchorsOfItems : List Node → Anchors
  | [] => []
  | item :: items => anchors item ++ anchorsOfItems items

private def anchorsOfEntries : List (Node × Node) → Anchors
  | [] => []
  | (key, value) :: entries => anchors key ++ anchors value ++ anchorsOfEntries entries

end

/-- The node that a node stands for. Of several nodes with one number it is the last. -/
def target? (known : Anchors) : Node → Option Node
  | reference anchor => (known.reverse.find? (·.1 = anchor)).map (·.2)
  | node => some node

def text? (known : Anchors) (node : Node) : Option String :=
  match node.target? known with
  | some (scalar _ _ _ text) => some text
  | _ => none

end Node

def digitValue? (base : Nat) (c : Char) : Option Nat :=
  let value :=
    if c.isDigit then c.toNat - '0'.toNat
    else if 'a' ≤ c ∧ c ≤ 'f' then c.toNat - 'a'.toNat + 10
    else if 'A' ≤ c ∧ c ≤ 'F' then c.toNat - 'A'.toNat + 10
    else base
  if value < base then some value else none

def digits? (base : Nat) (cs : List Char) : Option Nat :=
  if cs.isEmpty then none
  else cs.foldlM (fun n c => (digitValue? base c).map fun d => base * n + d) 0

/-- A whole number: in decimal without leading zeros, or in another base with a mark in front. A
plus sign may stand before all. -/
def natural? (s : String) : Option Nat :=
  let cs := match s.toList with
    | '+' :: cs => cs
    | cs => cs
  match cs with
  | '0' :: 'x' :: cs => digits? 16 cs
  | '0' :: 'o' :: cs => digits? 8 cs
  | '0' :: 'b' :: cs => digits? 2 cs
  | '0' :: _ :: _ => none
  | cs => digits? 10 cs

private def integerTag : String := "tag:yaml.org,2002:int"

namespace Node

private def isNumeric (tag : Option String) : Style → Bool
  | .plain => true
  | .literal => tag = some integerTag
  | _ => false

def natural? (known : Anchors) (bound : Nat) (node : Node) : Option Nat :=
  match node.target? known with
  | some (scalar _ tag style text) =>
    if isNumeric tag style then (Yaml.natural? text).filter (· < bound) else none
  | _ => none

end Node
end AddressPlan.Yaml
