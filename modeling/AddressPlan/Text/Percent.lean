import AddressPlan.Text.Pieces
import AddressPlan.Text.Utf8
/-!
# Percent encoding and queries

In an encoded text every byte but letters, digits and four marks is a percent sign and two
hexadecimal digits. A query is a list of names and values, joined by `&`, with `=` between name
and value; a plus sign in it stands for a space.
-/
namespace AddressPlan.Text

def isUnreserved (b : UInt8) : Bool :=
  let c := Char.ofNat b.toNat
  b < 0x80 && (c.isAlphanum || c == '-' || c == '_' || c == '.' || c == '~')

def upperHexDigit (n : Nat) : Char :=
  (Nat.digitChar n).toUpper

def percentByte (b : UInt8) : List Char :=
  if isUnreserved b then [Char.ofNat b.toNat]
  else ['%', upperHexDigit (b.toNat / 16), upperHexDigit (b.toNat % 16)]

def percentEncode (s : String) : String :=
  String.ofList ((utf8 s.toList).flatMap percentByte)

def hexValue? (b : UInt8) : Option UInt8 :=
  if 0x30 ≤ b && b ≤ 0x39 then some (b - 0x30)
  else if 0x61 ≤ b && b ≤ 0x66 then some (b - 0x61 + 10)
  else if 0x41 ≤ b && b ≤ 0x46 then some (b - 0x41 + 10)
  else none

/-- Decodes bytes; a percent sign without two digits behind it stands for itself. -/
def percentDecode : List UInt8 → List UInt8
  | [] => []
  | [a] => [a]
  | [a, b] => [a, b]
  | a :: b :: c :: rest =>
    if a = 0x25 then
      match hexValue? b, hexValue? c with
      | some high, some low => (high * 16 + low) :: percentDecode rest
      | _, _ => a :: percentDecode (b :: c :: rest)
    else a :: percentDecode (b :: c :: rest)

def queryText (pairs : List (String × String)) : String :=
  "&".intercalate (pairs.map fun (k, v) => percentEncode k ++ "=" ++ percentEncode v)

def queryHalf (cs : List Char) : String :=
  fromUtf8Lossy (percentDecode (utf8 (cs.map fun c => if c = '+' then ' ' else c)))

/-- The names and values of a query, in its order. Empty pieces are left out, and a piece
without a sign of equality has an empty value. -/
def queryPairs (query : List Char) : List (String × String) :=
  ((pieces '&' query).filter (!·.isEmpty)).map fun piece =>
    let (name, value) := cut '=' piece
    (queryHalf name, queryHalf value)

end AddressPlan.Text
