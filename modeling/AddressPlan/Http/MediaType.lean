import AddressPlan.Text.Pieces
/-!
# Media types

A media type has a type and a subtype, which may end in a suffix behind a plus sign, and possibly
parameters. Letter case does not matter in any of the names.
-/
namespace AddressPlan.Http.MediaType

def isToken (c : Char) : Bool :=
  c.isAlphanum || "!#$%&'*+-.^_`|~".toList.contains c

private def isQuotable (c : Char) : Bool :=
  0x20 ≤ c.toNat && c.toNat < 0x7F

inductive Progress
  /-- Before a parameter, or behind the last one. -/
  | fresh
  | name
  /-- Behind the sign of equality. -/
  | equals
  | plain
  /-- Behind the opening quote; a second quote right there is a part of the value. -/
  | opened
  | quoted
  | closed
  | failed
deriving DecidableEq

namespace Progress

def step : Progress → Char → Progress
  | fresh, c => if c = ' ' then fresh else if isToken c then name else failed
  | name, c => if c = '=' then equals else if isToken c then name else failed
  | equals, c => if c = '"' then opened else if isToken c then plain else failed
  | plain, c => if c = ';' then fresh else if isToken c then plain else failed
  | opened, c => if isQuotable c then quoted else failed
  | quoted, c => if c = '"' then closed else if isQuotable c then quoted else failed
  | closed, c => if c = ';' then fresh else if c = ' ' then closed else failed
  | failed, _ => failed

private def isFinal (p : Progress) : Bool :=
  p matches fresh | equals | plain | closed

end Progress

private def areParameters (cs : List Char) : Bool :=
  (cs.foldl Progress.step .fresh).isFinal

/-- The subtype, and its suffix if it has one: what stands behind the last plus sign that does
not stand first. -/
private def splitSuffix (subtype : List Char) : List Char × Option (List Char) :=
  let suffix := subtype.reverse.takeWhile (· != '+')
  let stem := (subtype.reverse.drop (suffix.length + 1)).reverse
  if stem.isEmpty then (subtype, none) else (stem, some suffix.reverse)

/-- The text names JSON: as a subtype of `application`, or as the suffix of one. -/
def isJson (s : String) : Bool :=
  let (kind, rest) := Text.cut '/' (s.toList.map Char.toLower)
  let (stem, suffix) := splitSuffix (rest.takeWhile isToken)
  kind == "application".toList && (stem == "json".toList || suffix == some "json".toList) &&
  match rest.dropWhile isToken with
  | [] => true
  | c :: cs => c == ';' && areParameters cs

end AddressPlan.Http.MediaType
