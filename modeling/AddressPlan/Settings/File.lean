import AddressPlan.Limits
import AddressPlan.Yaml.Document
/-!
# Limits from a file

A file of limits is a mapping of names to whole numbers. Names that are not given keep their
standard values and unknown names do no harm; no known name may be given twice.
-/
namespace AddressPlan.Limits
open Yaml (Node)

def number? (known : Yaml.Anchors) (entries : List (String × Node)) (name : String)
    (bound default : Nat) : Option Nat :=
  match entries.filter (·.1 = name) with
  | [] => some default
  | [(_, node)] => node.natural? known bound
  | _ => none

def ofEntries? (known : Yaml.Anchors) (entries : List (String × Node)) : Option Limits := do
  let byte (name : String) (default : UInt8) : Option UInt8 :=
    (number? known entries name UInt8.size default.toNat).map UInt8.ofNat
  let word (name : String) (default : UInt64) : Option UInt64 :=
    (number? known entries name UInt64.size default.toNat).map UInt64.ofNat
  return {
    minPrefixLength := ← byte "min_prefix_len" standard.minPrefixLength
    maxPrefixLength := ← byte "max_prefix_len" standard.maxPrefixLength
    maxNameLength := ← word "max_name_len" standard.maxNameLength
    defaultPageSize := ← word "default_page_size" standard.defaultPageSize
    maxPageSize := ← word "max_page_size" standard.maxPageSize }

/-- The limits that a file spells. An empty file leaves all of them as they are. -/
def ofFile? (text : String) : Option Limits := do
  let node ← Yaml.document? text
  match node with
  | .scalar _ _ .plain "" => return standard
  | .mapping _ entries =>
    let known := node.anchors
    ofEntries? known (← entries.mapM fun (key, value) => (key.text? known).map (·, value))
  | _ => none

end AddressPlan.Limits
