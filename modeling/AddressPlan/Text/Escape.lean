/-!
# Escapes

The plain escape of a text: control characters, quotes, backslashes and everything beyond the
printable ASCII characters are spelled with a backslash.
-/
namespace AddressPlan.Text

def isControl (c : Char) : Bool :=
  let n := c.toNat
  n < 0x20 || (0x7F ≤ n && n < 0xA0)

def numbered (c : Char) : List Char :=
  '\\' :: 'u' :: '{' :: Nat.toDigits 16 c.toNat ++ ['}']

def escapeChar (c : Char) : List Char :=
  if c = '\t' then ['\\', 't']
  else if c = '\r' then ['\\', 'r']
  else if c = '\n' then ['\\', 'n']
  else if c = '\'' ∨ c = '"' ∨ c = '\\' then ['\\', c]
  else if 0x20 ≤ c.toNat ∧ c.toNat < 0x7F then [c]
  else numbered c

def escape (s : String) : String :=
  String.ofList (s.toList.flatMap escapeChar)

end AddressPlan.Text
