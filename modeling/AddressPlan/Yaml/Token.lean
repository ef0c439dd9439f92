import AddressPlan.Yaml.Scalar
/-!
# Tokens

The smallest pieces of a file that mean something, and the reading of those that begin with a mark
of their own: names of anchors, tags, and directives.
-/
namespace AddressPlan.Yaml

/-- A tag as it is written: a handle that stands for the head of a name, and the rest of it. -/
structure Tag where
  handle : String
  suffix : String
deriving DecidableEq

inductive Token
  | version (major minor : Nat)
  | handle (name head : String)
  | documentStart
  | documentEnd
  | sequenceStart
  | mappingStart
  | blockEnd
  | flowSequenceStart
  | flowSequenceEnd
  | flowMappingStart
  | flowMappingEnd
  | item
  | comma
  | key
  | value
  | reference (name : String)
  | anchor (name : String)
  | tag (tag : Tag)
  | scalar (style : Style) (text : String)
deriving DecidableEq

def anchorName? (ls : List Letter) : Option (String × List Letter) :=
  let (name, rest) := spanOf isWord ls
  let ended := match rest with
    | [] => true
    | l :: _ => isSpace l.char || "?:,]\x7d%@`".toList.contains l.char
  if !name.isEmpty && ended then some (String.ofList name, rest) else none

private def octetsAfter? (octet : Nat) : Option Nat :=
  if octet < 0x80 then some 0
  else if octet < 0xC0 then none
  else if octet < 0xE0 then some 1
  else if octet < 0xF0 then some 2
  else if octet < 0xF8 then some 3
  else none

/-- A character of a tag; some are known only where angles or the end of a line close the tag. -/
private def isTagChar (closed : Bool) (c : Char) : Bool :=
  isWord c || ";/?:@&=+$.!~*'()".toList.contains c || (closed && ",[]".toList.contains c)

/-- The characters of a tag, and what follows them. An octet may be written as two hexadecimal
digits behind a percent sign; `due` of them have to follow to fill up a character. -/
private def tagChars? (closed : Bool) (due : Nat) : List Letter → Option (List Char × List Letter)
  | [] => if due = 0 then some ([], []) else none
  | l :: ls =>
    if l.char == '%' then
      match ls with
      | m :: n :: rest => do
        let octet := 16 * (← digitValue? 16 m.char) + (← digitValue? 16 n.char)
        let due ← if due = 0 then octetsAfter? octet
          else if octet / 64 = 2 then some (due - 1) else none
        let (text, rest) ← tagChars? closed due rest
        return (Char.ofNat octet :: text, rest)
      | _ => none
    else if due ≠ 0 then none
    else if isTagChar closed l.char then
      (tagChars? closed 0 ls).map fun (text, rest) => (l.char :: text, rest)
    else some ([], l :: ls)

def tagText (cs : List Char) : String :=
  String.ofList (cs.takeWhile (· != '\x00'))

private def tagPart? (closed : Bool) (ls : List Letter) : Option (String × List Letter) := do
  let (text, rest) ← tagChars? closed 0 ls
  if text.isEmpty then none else return (tagText text, rest)

/-- The tag behind its mark, without a look at what follows it. A mark alone has no handle. -/
private def tagBody? (ls : List Letter) : Option (Tag × List Letter) :=
  let (name, rest) := spanOf isWord ls
  match ls, rest with
  | ⟨'<', _, _, _⟩ :: inside, _ => do
    let (suffix, rest) ← tagPart? true inside
    match rest with
    | ⟨'>', _, _, _⟩ :: rest => return (⟨"", suffix⟩, rest)
    | _ => none
  | _, ⟨'!', _, _, _⟩ :: rest => do
    let (suffix, rest) ← tagPart? false rest
    return (⟨"!" ++ String.ofList name ++ "!", suffix⟩, rest)
  | _, _ => do
    let (text, rest) ← tagChars? false 0 rest
    let suffix := tagText (name ++ text)
    return (if suffix = "" then ⟨"", "!"⟩ else ⟨"!", suffix⟩, rest)

def tag? (inFlow : Bool) (ls : List Letter) : Option (Tag × List Letter) := do
  let (tag, rest) ← tagBody? ls
  let ended := match rest with
    | [] => true
    | l :: _ => isSpace l.char || (inFlow && l.char == ',')
  if ended then return (tag, rest) else none

private def versionNumber? (ls : List Letter) : Option (Nat × List Letter) := do
  let (digits, rest) := spanOf Char.isDigit ls
  if digits.length ≤ 9 then return (← digits? 10 digits, rest) else none

private def versionDirective? (ls : List Letter) : Option (Token × List Letter) := do
  let (major, rest) ← versionNumber? (spanOf isGap ls).2
  match rest with
  | ⟨'.', _, _, _⟩ :: rest => do
    let (minor, rest) ← versionNumber? rest
    return (.version major minor, rest)
  | _ => none

private def handleDirective? (ls : List Letter) : Option (Token × List Letter) :=
  match (spanOf isGap ls).2 with
  | ⟨'!', _, _, _⟩ :: rest => do
    let (name, rest) := spanOf isWord rest
    let (handle, rest) ← match rest with
      | ⟨'!', _, _, _⟩ :: rest => some ("!" ++ String.ofList name ++ "!", rest)
      | _ => if name.isEmpty then some ("!", rest) else none
    let (gap, rest) := spanOf isGap rest
    let (head, rest) ← tagPart? true rest
    if !gap.isEmpty && atSpace rest then return (.handle handle head, rest) else none
  | _ => none

/-- The directive behind its mark, and the lines that follow it. -/
def directive? (ls : List Letter) : Option (Token × List Letter) := do
  let (name, rest) := spanOf isWord ls
  let (token, rest) ←
    if !atSpace rest then none
    else if name = "YAML".toList then versionDirective? rest
    else if name = "TAG".toList then handleDirective? rest
    else none
  return (token, ← nextLine? rest)

end AddressPlan.Yaml
