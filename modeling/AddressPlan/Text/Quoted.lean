import AddressPlan.Text.Escape
import AddressPlan.Text.UnshownTable
/-!
# Quoted texts

A text in double quotes, for a reader of logs. Quotes and backslashes are escaped, and so is any
character that does not show by itself; other characters stand as they are.
-/
namespace AddressPlan.Text

private def isShown (c : Char) : Bool :=
  if c.toNat < 0x80 then !isControl c
  else !unshownRanges.any fun (first, last) => first ≤ c.toNat && c.toNat ≤ last

private def quoteChar (c : Char) : List Char :=
  if c = '\x00' then ['\\', '0']
  else if c = '\t' then ['\\', 't']
  else if c = '\r' then ['\\', 'r']
  else if c = '\n' then ['\\', 'n']
  else if c = '"' ∨ c = '\\' then ['\\', c]
  else if isShown c then [c]
  else numbered c

def quote (s : String) : String :=
  String.ofList ('"' :: s.toList.flatMap quoteChar ++ ['"'])

end AddressPlan.Text
