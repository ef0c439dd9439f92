import AddressPlan.Text.Utf8
/-!
# Targets of requests

The address of a request is a path with a query, or a whole address with a scheme and a host in
front of those. Only the path and the query matter, and a fragment behind them is never looked at.
A host alone has no path, and so has nothing that could be found.
-/
namespace AddressPlan.Http

structure Target where
  path : List Char
  query : List Char
deriving DecidableEq

namespace Target

def maxLength : Nat := 65534

private def isSchemeChar (c : Char) : Bool :=
  c.isAlphanum || "+-.~".toList.contains c

private def isHostChar (c : Char) : Bool :=
  c.isAlphanum || "!$&'()*+,-.;=_~".toList.contains c

private def isPathChar (c : Char) : Bool :=
  0x20 < c.toNat && !"<>`".toList.contains c

private def isQueryChar (c : Char) : Bool :=
  0x20 < c.toNat && !"\"<>".toList.contains c

private def afterScheme? (cs : List Char) : Option (List Char) :=
  match cs.dropWhile isSchemeChar with
  | ':' :: '/' :: '/' :: rest => some rest
  | _ => none

/-- What has been seen of a host: the colons and the percent signs that count, and brackets. -/
structure HostState where
  colons : Nat
  percent : Bool
  opened : Bool
  closed : Bool

/-- A name and a password may stand in front of a host, and a number behind it. What counts in
these is forgotten at their ends. -/
def HostState.next? (s : HostState) (c : Char) : Option HostState :=
  if c = ':' then if s.colons < 8 then some { s with colons := s.colons + 1 } else none
  else if c = '[' then if s.percent || s.opened then none else some { s with opened := true }
  else if c = ']' then
    if s.opened && !s.closed then some ⟨0, false, true, true⟩ else none
  else if c = '@' then some { s with colons := 0, percent := false }
  else if c = '%' then some { s with percent := true }
  else if isHostChar c then some s
  else none

private def isHost (cs : List Char) : Bool :=
  match cs.foldlM HostState.next? ⟨0, false, false, false⟩ with
  | some s => s.opened == s.closed && s.colons ≤ 1 && !s.percent && cs.getLast? != some '@'
  | none => false

private def ofTail? (cs : List Char) : Option Target :=
  let shown := cs.takeWhile (· != '#')
  let path := shown.takeWhile (· != '?')
  let query := (shown.dropWhile (· != '?')).drop 1
  if path.all isPathChar && query.all isQueryChar then
    some ⟨if path.isEmpty then ['/'] else path, query⟩
  else none

private def ofHost? (cs : List Char) : Option Target :=
  let isInside (c : Char) : Bool := c != '/' && c != '?' && c != '#'
  let host := cs.takeWhile isInside
  if !host.isEmpty && isHost host then ofTail? (cs.dropWhile isInside) else none

def parse? (s : String) : Option Target :=
  let cs := s.toList
  if maxLength < (Text.utf8 cs).length then none
  else if cs.head? = some '/' then ofTail? cs
  else if cs = ['*'] then some ⟨['*'], []⟩
  else
    match afterScheme? cs with
    | some rest =>
      if (cs.takeWhile isSchemeChar).length ≤ 64 ∧ 3 < cs.length then ofHost? rest else none
    | none => if !cs.isEmpty && isHost cs then some ⟨[], []⟩ else none

end Target
end AddressPlan.Http
