import AddressPlan.Json.Node
/-!
# Reading JSON

Reads the node that a text spells. Numbers have no leading zeros, strings no raw control
characters, lists no comma at the end. Arrays and objects may be nested 127 deep; deeper ones can
only be skipped. The functions take a fuel of twice the length of the text, and each call that
reads something takes one of it.
-/
namespace AddressPlan.Json

def isGap (c : Char) : Bool :=
  c == ' ' || c == '\n' || c == '\t' || c == '\r'

def skipGap (cs : List Char) : List Char :=
  cs.dropWhile isGap

/-- A character of a string, or a 16-bit unit that an escape spells. -/
inductive StringPart
  | char (c : Char)
  | unit (n : Nat)
deriving DecidableEq

private def hexDigit? (c : Char) : Option Nat :=
  let n := c.toNat
  if '0'.toNat ≤ n ∧ n ≤ '9'.toNat then some (n - '0'.toNat)
  else if 'a'.toNat ≤ n ∧ n ≤ 'f'.toNat then some (n - 'a'.toNat + 10)
  else if 'A'.toNat ≤ n ∧ n ≤ 'F'.toNat then some (n - 'A'.toNat + 10)
  else none

def unit? (a b c d : Char) : Option Nat := do
  return (← hexDigit? a) * 4096 + (← hexDigit? b) * 256 + (← hexDigit? c) * 16 + (← hexDigit? d)

def escaped? (c : Char) : Option Char :=
  match c with
  | '"' => some '"'
  | '\\' => some '\\'
  | '/' => some '/'
  | 'b' => some '\x08'
  | 'f' => some '\x0c'
  | 'n' => some '\n'
  | 'r' => some '\r'
  | 't' => some '\t'
  | _ => none

/-- The parts of a string up to its closing quote, behind the parts `read` in reverse, and what
follows the quote. -/
def stringParts (read : List StringPart) : List Char → Option (List StringPart × List Char)
  | [] => none
  | '"' :: cs => some (read.reverse, cs)
  | '\\' :: 'u' :: a :: b :: c :: d :: cs =>
    match unit? a b c d with
    | some n => stringParts (.unit n :: read) cs
    | none => none
  | '\\' :: c :: cs =>
    match escaped? c with
    | some e => stringParts (.char e :: read) cs
    | none => none
  | c :: cs => if c.toNat < 0x20 then none else stringParts (.char c :: read) cs

/-- The characters that the parts of a string spell. A pair of surrogate units is one character;
half a pair is none. -/
def assemble? : List StringPart → Option (List Char)
  | [] => some []
  | .char c :: parts => (assemble? parts).map (c :: ·)
  | .unit n :: parts =>
    if 0xD800 ≤ n ∧ n < 0xDC00 then
      match parts with
      | .unit m :: parts =>
        if 0xDC00 ≤ m ∧ m < 0xE000 then
          (assemble? parts).map (Char.ofNat ((n - 0xD800) * 0x400 + (m - 0xDC00) + 0x10000) :: ·)
        else none
      | _ => none
    else if 0xDC00 ≤ n ∧ n < 0xE000 then none
    else (assemble? parts).map (Char.ofNat n :: ·)

def readString (cs : List Char) : Option (Option String × List Char) :=
  (stringParts [] cs).map fun (parts, rest) => ((assemble? parts).map String.ofList, rest)

def digits (cs : List Char) : List Char × List Char :=
  (cs.takeWhile Char.isDigit, cs.dropWhile Char.isDigit)

def wholePart? (cs : List Char) : Option (List Char × List Char) :=
  let (ds, rest) := digits cs
  match ds with
  | [] => none
  | '0' :: _ :: _ => none
  | ds => some (ds, rest)

def fractionPart? : List Char → Option (Option (List Char) × List Char)
  | '.' :: cs =>
    let (ds, rest) := digits cs
    if ds.isEmpty then none else some (some ds, rest)
  | cs => some (none, cs)

def powerPart? : List Char → Option (Option (Bool × List Char) × List Char)
  | c :: cs =>
    if c = 'e' ∨ c = 'E' then
      let (minus, cs) := match cs with
        | '+' :: cs => (false, cs)
        | '-' :: cs => (true, cs)
        | cs => (false, cs)
      let (ds, rest) := digits cs
      if ds.isEmpty then none else some (some (minus, ds), rest)
    else some (none, c :: cs)
  | [] => some (none, [])

def readNumeral (cs : List Char) : Option (Numeral × List Char) := do
  let (minus, cs) := match cs with
    | '-' :: cs => (true, cs)
    | cs => (false, cs)
  let (whole, cs) ← wholePart? cs
  let (fraction, cs) ← fractionPart? cs
  let (power, cs) ← powerPart? cs
  return (⟨minus, whole, fraction, power⟩, cs)

def broken : Node := .unusable false

def maxDepth : Nat := 127

/-- An array or an object at the given depth; one that is too deep can only be skipped. -/
def nested (depth : Nat) (n : Node) : Node :=
  if depth < maxDepth then n else .unusable n.skippable

mutual

/-- The value at the head of a text and what follows it. -/
def readValue : Nat → Nat → List Char → Node × List Char
  | 0, _, cs => (broken, cs)
  | fuel + 1, depth, cs =>
    match skipGap cs with
    | 'n' :: 'u' :: 'l' :: 'l' :: cs => (.null, cs)
    | 't' :: 'r' :: 'u' :: 'e' :: cs => (.bool true, cs)
    | 'f' :: 'a' :: 'l' :: 's' :: 'e' :: cs => (.bool false, cs)
    | '"' :: cs =>
      match readString cs with
      | some (some s, rest) => (.string s, rest)
      | some (none, rest) => (.unusable true, rest)
      | none => (broken, cs)
    | '[' :: cs =>
      match skipGap cs with
      | ']' :: rest => (nested depth (.array [] .closed), rest)
      | cs =>
        let (items, ending, rest) := readItems fuel (depth + 1) cs
        (nested depth (.array items ending), rest)
    | '{' :: cs =>
      match skipGap cs with
      | '}' :: rest => (nested depth (.object [] .closed), rest)
      | cs =>
        let (fields, ending, rest) := readFields fuel (depth + 1) cs
        (nested depth (.object fields ending), rest)
    | cs =>
      match readNumeral cs with
      | some (numeral, rest) =>
        match numeral.number? with
        | some n => (.number n, rest)
        | none => (.unusable true, rest)
      | none => (broken, cs)

def readItems : Nat → Nat → List Char → List Node × Ending × List Char
  | 0, _, cs => ([], .unusable false, cs)
  | fuel + 1, depth, cs =>
    let (item, cs) := readValue fuel depth cs
    if item.stops then ([item], .unusable false, cs)
    else
      match skipGap cs with
      | ']' :: rest => ([item], .closed, rest)
      | ',' :: cs =>
        let (items, ending, rest) := readItems fuel depth cs
        (item :: items, ending, rest)
      | cs => ([item], .unusable false, cs)

def readFields : Nat → Nat → List Char → List (String × Node) × Ending × List Char
  | 0, _, cs => ([], .unusable false, cs)
  | fuel + 1, depth, cs =>
    match skipGap cs with
    | '"' :: cs =>
      match readString cs with
      | none => ([], .unusable false, cs)
      | some (key, cs) =>
        let (value, fields, ending, rest) := readField fuel depth cs
        match key with
        | some key => ((key, value) :: fields, ending, rest)
        | none =>
          let skippable := value.skippable && fields.all (·.2.skippable) && ending.skippable
          ([], .unusable skippable, rest)
    | cs => ([], .unusable false, cs)

def readField : Nat → Nat → List Char → Node × List (String × Node) × Ending × List Char
  | 0, _, cs => (broken, [], .unusable false, cs)
  | fuel + 1, depth, cs =>
    match skipGap cs with
    | ':' :: cs =>
      let (value, cs) := readValue fuel depth cs
      if value.stops then (value, [], .unusable false, cs)
      else
        match skipGap cs with
        | '}' :: rest => (value, [], .closed, rest)
        | ',' :: cs =>
          let (fields, ending, rest) := readFields fuel depth cs
          (value, fields, ending, rest)
        | cs => (value, [], .unusable false, cs)
    | cs => (broken, [], .unusable false, cs)

end

/-- The value that a text starts with, and whether nothing but white space follows it. -/
def readDocument (cs : List Char) : Node × Bool :=
  let (n, rest) := readValue (2 * cs.length + 2) 0 cs
  (n, (skipGap rest).isEmpty)

end AddressPlan.Json
