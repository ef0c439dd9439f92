/-!
# The characters of a file

A file is a list of characters that know their place. A line ends at a line feed, a carriage
return, both of them together, or one of the separators that Unicode has for it; only the last two
of those are told apart from a line feed.
-/
namespace AddressPlan.Yaml

/-- A character and its place: its line, its column, and how many characters stand before it. -/
structure Letter where
  char : Char
  line : Nat
  column : Nat
  index : Nat

def isGap (c : Char) : Bool :=
  c == ' ' || c == '\t'

def isBreak (c : Char) : Bool :=
  c == '\n' || c == '\u2028' || c == '\u2029'

def isSpace (c : Char) : Bool :=
  isGap c || isBreak c

def isWord (c : Char) : Bool :=
  c.isAlphanum || c == '_' || c == '-'

def isFlowMark (c : Char) : Bool :=
  c == ',' || c == '[' || c == ']' || c == '{' || c == '}'

private def isAllowed (c : Char) : Bool :=
  let n := c.toNat
  n == 9 || n == 10 || n == 13 || (0x20 ≤ n && n ≤ 0x7E) || n == 0x85 ||
    (0xA0 ≤ n && n ≤ 0xFFFD) || 0x10000 ≤ n

/-- Line feeds for the ends of lines that are not told apart. -/
private def lineEnds : List Char → List Char
  | [] => []
  | '\r' :: '\n' :: cs => '\n' :: lineEnds cs
  | c :: cs => (if c == '\r' || c == '\u0085' then '\n' else c) :: lineEnds cs

def place (line column index : Nat) : List Char → List Letter
  | [] => []
  | c :: cs =>
    ⟨c, line, column, index⟩ ::
      if isBreak c then place (line + 1) 0 (index + 1) cs
      else place line (column + 1) (index + 1) cs

def letters? (s : String) : Option (List Letter) :=
  if s.toList.all isAllowed then some (place 0 0 0 (lineEnds s.toList)) else none

def atSpace : List Letter → Bool
  | [] => true
  | l :: _ => isSpace l.char

def isMark (c : Char) : List Letter → Bool
  | l :: m :: n :: rest =>
    l.column == 0 && l.char == c && m.char == c && n.char == c && atSpace rest
  | _ => false

def isBoundary (ls : List Letter) : Bool :=
  isMark '-' ls || isMark '.' ls

/-- The characters up to the first one that `p` does not hold for, and what follows them. -/
def spanOf (p : Char → Bool) (ls : List Letter) : List Char × List Letter :=
  ((ls.takeWhile fun l => p l.char).map Letter.char, ls.dropWhile fun l => p l.char)

/-- The next line, if the rest of this one is blank or a comment. -/
def nextLine? (ls : List Letter) : Option (List Letter) :=
  let behind := (spanOf isGap ls).2
  let atEnd := match behind with
    | l :: _ => if l.char == '#' then (spanOf (!isBreak ·) behind).2 else behind
    | [] => []
  match atEnd with
  | [] => some []
  | l :: rest => if isBreak l.char then some rest else none

end AddressPlan.Yaml
