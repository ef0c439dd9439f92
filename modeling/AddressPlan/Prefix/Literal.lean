import AddressPlan.Prefix.Basic
import AddressPlan.Text.Blank
import AddressPlan.Text.Pieces
/-!
# Prefix literals

A prefix is written as its first address in dotted form, a slash and its length. Two forms are
read, blanks around them apart: the one with a slash, whose octets may have leading zeros, and
a bare address, whose octets may not and which stands for a block of one address.
-/
namespace AddressPlan.Prefix
open Text

inductive LiteralError
  | empty
  | badCidr (text : String)
  | badAddress (text : String)
deriving DecidableEq

def LiteralError.message : LiteralError → String
  | .empty => "CIDR must not be empty"
  | .badCidr text => "invalid IPv4 CIDR '" ++ text ++ "': invalid IP address syntax"
  | .badAddress text => "invalid IPv4 address '" ++ text ++ "': invalid IPv4 address syntax"

def octets (address : UInt32) : List Nat :=
  let n := address.toNat
  [n / 16777216, n / 65536 % 256, n / 256 % 256, n % 256]

def dotted (address : UInt32) : String :=
  ".".intercalate ((octets address).map Nat.repr)

def text (p : Prefix) : String :=
  dotted p.network ++ "/" ++ p.length.repr

def octet? (leadingZeros : Bool) (cs : List Char) : Option Nat :=
  let value := Nat.ofDigitChars 10 cs 0
  if cs.all Char.isDigit && 1 ≤ cs.length && cs.length ≤ 3 && value < 256 &&
      (leadingZeros || cs.length == 1 || cs.head? != some '0')
  then some value else none

def address? (leadingZeros : Bool) (cs : List Char) : Option UInt32 :=
  match (pieces '.' cs).mapM (octet? leadingZeros) with
  | some [a, b, c, d] => some (UInt32.ofNat (a * 16777216 + b * 65536 + c * 256 + d))
  | _ => none

def length? (cs : List Char) : Option { n : Nat // n ≤ 32 } :=
  let value := Nat.ofDigitChars 10 cs 0
  if h : value ≤ 32 then
    if cs.all Char.isDigit && 1 ≤ cs.length && cs.length ≤ 2 then some ⟨value, h⟩ else none
  else none

def cidr? (cs : List Char) : Option Prefix :=
  match pieces '/' cs with
  | [address, len] => do
    let a ← address? true address
    let n ← length? len
    return ofAddress a n.1 n.2
  | _ => none

/-- Reads a prefix literal; host bits are cleared. -/
def parse (s : String) : Except LiteralError Prefix :=
  let cs := trimChars s.toList
  if cs.isEmpty then .error .empty
  else if cs.contains '/' then
    match cidr? cs with
    | some p => .ok p
    | none => .error (.badCidr (String.ofList cs))
  else
    match address? false cs with
    | some a => .ok (host a)
    | none => .error (.badAddress (String.ofList cs))

end AddressPlan.Prefix
