import AddressPlan.Prefix.Literal
/-!
# Socket addresses

Where a service listens: an address and the number of a socket on it. An address of the older
family is written in dotted form; one of the newer family stands in brackets, as groups of
hexadecimal digits with the longest run of zero groups left out, and may have a scope behind a
percent sign.
-/
namespace AddressPlan
open Text

inductive SocketAddress
  | v4 (address : UInt32) (socket : UInt16)
  | v6 (groups : Vector UInt16 8) (scope : UInt32) (socket : UInt16)
deriving DecidableEq

namespace SocketAddress

def number? (bound : Nat) (cs : List Char) : Option Nat :=
  let value := Nat.ofDigitChars 10 cs 0
  if !cs.isEmpty && cs.all Char.isDigit && value < bound then some value else none

private def isHexDigit (c : Char) : Bool :=
  c.isDigit || ('a' ≤ c && c ≤ 'f') || ('A' ≤ c && c ≤ 'F')

private def hexDigit (c : Char) : Nat :=
  if c.isDigit then c.toNat - '0'.toNat else c.toLower.toNat - 'a'.toNat + 10

private def group? (cs : List Char) : Option Nat :=
  if !cs.isEmpty && cs.length ≤ 4 && cs.all isHexDigit then
    some (cs.foldl (fun n c => 16 * n + hexDigit c) 0)
  else none

/-- Groups with colons between them. The last two may be an address in dotted form, where
`dotted` says so. -/
private def groupList? (dotted : Bool) : List (List Char) → Option (List Nat)
  | [] => some []
  | [cs] =>
    match group? cs with
    | some g => some [g]
    | none =>
      if dotted then
        (Prefix.address? false cs).map fun a => [a.toNat / 65536, a.toNat % 65536]
      else none
  | cs :: rest => do
    let g ← group? cs
    return g :: (← groupList? dotted rest)

private def groups? (dotted : Bool) (cs : List Char) : Option (List Nat) :=
  if cs.isEmpty then some [] else groupList? dotted (pieces ':' cs)

private def splitGap : List Char → Option (List Char × List Char)
  | ':' :: ':' :: rest => some ([], rest)
  | c :: rest => (splitGap rest).map fun (before, after) => (c :: before, after)
  | [] => none

private def eight? (groups : List Nat) : Option (Vector UInt16 8) :=
  if h : groups.length = 8 then some ⟨(groups.map UInt16.ofNat).toArray, by simpa using h⟩
  else none

/-- The eight groups of an address. Two colons in a row stand for at least one zero group. -/
private def address6? (cs : List Char) : Option (Vector UInt16 8) :=
  match splitGap cs with
  | none => (groups? true cs).bind eight?
  | some (before, after) => do
    let head ← groups? false before
    let tail ← groups? true after
    if head.length + tail.length < 8 then
      eight? (head ++ List.replicate (8 - head.length - tail.length) 0 ++ tail)
    else none

private def scoped? (cs : List Char) : Option (Vector UInt16 8 × UInt32) :=
  match pieces '%' cs with
  | [address] => (address6? address).map fun groups => (groups, 0)
  | [address, scope] => do
    let groups ← address6? address
    let n ← number? UInt32.size scope
    return (groups, UInt32.ofNat n)
  | _ => none

private def socket? (cs : List Char) : Option UInt16 :=
  (number? UInt16.size cs).map UInt16.ofNat

def parse? (s : String) : Option SocketAddress :=
  match s.toList with
  | '[' :: cs =>
    match cut ']' cs with
    | (inside, ':' :: socket) => do
      let (groups, scope) ← scoped? inside
      return v6 groups scope (← socket? socket)
    | _ => none
  | cs =>
    match pieces ':' cs with
    | [address, socket] => do
      return v4 (← Prefix.address? false address) (← socket? socket)
    | _ => none

/-- The start and the length of the longest run of zero groups, the first one of several, behind
`start` groups. -/
private def longestRun (start : Nat) : List Nat → Nat × Nat
  | [] => (start, 0)
  | g :: gs =>
    let here := ((g :: gs).takeWhile (· = 0)).length
    let later := longestRun (start + 1) gs
    if later.2 ≤ here then (start, here) else later

private def groupText (g : Nat) : String :=
  String.ofList (Nat.toDigits 16 g)

private def groupsText (groups : List Nat) : String :=
  ":".intercalate (groups.map groupText)

private def text6 (groups : List Nat) : String :=
  match groups with
  | [0, 0, 0, 0, 0, 0xFFFF, a, b] => "::ffff:" ++ Prefix.dotted (UInt32.ofNat (a * 65536 + b))
  | groups =>
    let (start, length) := longestRun 0 groups
    if 1 < length then
      groupsText (groups.take start) ++ "::" ++ groupsText (groups.drop (start + length))
    else groupsText groups

def text : SocketAddress → String
  | v4 address socket => Prefix.dotted address ++ ":" ++ socket.toNat.repr
  | v6 groups scope socket =>
    let scope := if scope = 0 then "" else "%" ++ scope.toNat.repr
    "[" ++ text6 (groups.toList.map UInt16.toNat) ++ scope ++ "]:" ++ socket.toNat.repr

end SocketAddress
end AddressPlan
