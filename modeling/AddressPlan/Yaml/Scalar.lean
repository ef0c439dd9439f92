import AddressPlan.Yaml.Letter
import AddressPlan.Yaml.Node
/-!
# Texts

The three ways to spell a text: bare, in quotes, and set off in lines of its own. A bare or quoted
text may go on over several lines; the blanks around the end of a line then count for one blank,
and an empty line for a line feed.
-/
namespace AddressPlan.Yaml

/-- What stands between two pieces of a text: blanks within a line, or ends of lines. The first
end of a line may be hidden by a backslash. The last of the characters come first. -/
inductive Gap
  | blanks (text : List Char)
  | breaks (first : Option Char) (more : List Char)

namespace Gap

def empty : Gap := blanks []

def isEmpty : Gap → Bool
  | blanks text => text.isEmpty
  | breaks _ _ => false

private def isBroken : Gap → Bool
  | blanks _ => false
  | breaks _ _ => true

private def add (c : Char) : Gap → Gap
  | blanks text => if isBreak c then breaks (some c) [] else blanks (c :: text)
  | breaks first more => if isBreak c then breaks first (c :: more) else breaks first more

def folded : Gap → List Char
  | blanks text => text
  | breaks first more =>
    if first = some '\n' then if more.isEmpty then [' '] else more
    else more ++ first.toList

end Gap

/-- The bare text from here on, whether the end of a line stands behind it, and what follows. It
goes on with lines that are indented by `least` at least. A text has its last character first. -/
def plain? (inFlow : Bool) (least : Nat) (gap : Gap) (text : List Char) :
    List Letter → Option (List Char × Bool × List Letter)
  | [] => some (text, gap.isBroken, [])
  | l :: ls =>
    let stop := some (text, gap.isBroken, l :: ls)
    if isSpace l.char then
      if l.char == '\t' && gap.isBroken && l.column < least then none
      else plain? inFlow least (gap.add l.char) text ls
    else if gap.isBroken && !inFlow && l.column < least then stop
    else if isBoundary (l :: ls) || (l.char == '#' && !gap.isEmpty) then stop
    else if inFlow && l.char == ':' && touchesMark ls then none
    else if (l.char == ':' && atSpace ls) || (inFlow && isFlowMark l.char) then stop
    else plain? inFlow least .empty (l.char :: gap.folded ++ text) ls
where
  touchesMark : List Letter → Bool
    | [] => false
    | l :: _ => isFlowMark l.char || l.char == '?'

def single? (gap : Gap) (text : List Char) : List Letter → Option (List Char × List Letter)
  | [] => none
  | l :: ls =>
    if isSpace l.char then single? (gap.add l.char) text ls
    else if isBoundary (l :: ls) then none
    else if l.char == '\'' then
      match ls with
      | [] => some ((gap.folded ++ text).reverse, [])
      | m :: rest =>
        if m.char == '\'' then single? .empty ('\'' :: gap.folded ++ text) rest
        else some ((gap.folded ++ text).reverse, m :: rest)
    else single? .empty (l.char :: gap.folded ++ text) ls

private def escapeWidth? (c : Char) : Option Nat :=
  if c = 'x' then some 2 else if c = 'u' then some 4 else if c = 'U' then some 8 else none

def escaped? (c : Char) : Option Char :=
  match c with
  | '0' => some '\x00'
  | 'a' => some '\x07'
  | 'b' => some '\x08'
  | 't' => some '\t'
  | '\t' => some '\t'
  | 'n' => some '\n'
  | 'v' => some '\x0b'
  | 'f' => some '\x0c'
  | 'r' => some '\r'
  | 'e' => some '\x1b'
  | ' ' => some ' '
  | '"' => some '"'
  | '/' => some '/'
  | '\\' => some '\\'
  | 'N' => some '\u0085'
  | '_' => some '\u00a0'
  | 'L' => some '\u2028'
  | 'P' => some '\u2029'
  | _ => none

/-- Where the reader of a text in double quotes is: within the text, behind a backslash, or at a
digit of a numbered character, with the number of digits behind that one and the value so far. -/
inductive QuoteState
  | text (gap : Gap)
  | escape
  | number (after value : Nat)

def double? (state : QuoteState) (text : List Char) : List Letter → Option (List Char × List Letter)
  | [] => none
  | l :: ls =>
    match state with
    | .text gap =>
      if isSpace l.char then double? (.text (gap.add l.char)) text ls
      else if isBoundary (l :: ls) then none
      else if l.char == '"' then some ((gap.folded ++ text).reverse, ls)
      else if l.char == '\\' then double? .escape (gap.folded ++ text) ls
      else double? (.text .empty) (l.char :: gap.folded ++ text) ls
    | .escape =>
      if isBreak l.char then double? (.text (.breaks none [])) text ls
      else
        match escapeWidth? l.char, escaped? l.char with
        | some width, _ => double? (.number (width - 1) 0) text ls
        | none, some c => double? (.text .empty) (c :: text) ls
        | none, none => none
    | .number after value =>
      match digitValue? 16 l.char with
      | none => none
      | some d =>
        let value := 16 * value + d
        if after ≠ 0 then double? (.number (after - 1) value) text ls
        else if value.isValidChar then double? (.text .empty) (Char.ofNat value :: text) ls
        else none

/-- What becomes of the ends of lines behind a text that is set off. -/
inductive Chomp
  | strip
  | clip
  | keep
deriving DecidableEq

private def Chomp.ofChar? (c : Char) : Option Chomp :=
  if c = '-' then some strip else if c = '+' then some keep else none

private def step? (l : Letter) : Option Nat :=
  if l.char.isDigit && l.char != '0' then digitValue? 10 l.char else none

/-- The marks behind the head of a text that is set off, in either order. What is no mark is left
where it is. -/
private def blockMarks (ls : List Letter) : Chomp × Option Nat × List Letter :=
  match ls with
  | [] => (.clip, none, [])
  | l :: rest =>
    match Chomp.ofChar? l.char, step? l with
    | some chomp, _ =>
      match rest with
      | [] => (chomp, none, [])
      | m :: rest' =>
        match step? m with
        | some n => (chomp, some n, rest')
        | none => (chomp, none, rest)
    | none, some n =>
      match rest with
      | [] => (.clip, some n, [])
      | m :: rest' =>
        match Chomp.ofChar? m.char with
        | some chomp => (chomp, some n, rest')
        | none => (.clip, some n, rest)
    | none, none => (.clip, none, ls)

/-- The deepest column that blanks reach before the first line that has more than blanks. -/
private def firstIndent? (deepest : Nat) : List Letter → Option Nat
  | [] => some deepest
  | l :: ls =>
    if l.char == ' ' then firstIndent? (max deepest (l.column + 1)) ls
    else if l.char == '\t' then none
    else if isBreak l.char then firstIndent? deepest ls
    else some deepest

/-- The text of a set-off text so far, last character first: the end of the last line, the empty
lines behind it, and whether that line began with a blank. -/
structure BlockText where
  text : List Char
  last : Option Char
  empties : List Char
  blank : Bool

namespace BlockText

def start : BlockText := ⟨[], none, [], false⟩

/-- The text with the ends of lines that stand before a line which starts with `c`. -/
private def joined (t : BlockText) (isFolded : Bool) (c : Char) : List Char :=
  if isFolded && t.last == some '\n' && !t.blank && !isGap c then
    t.empties ++ (if t.empties.isEmpty then ' ' :: t.text else t.text)
  else t.empties ++ t.last.toList ++ t.text

private def finish (t : BlockText) (chomp : Chomp) : List Char :=
  match chomp with
  | .strip => t.text.reverse
  | .clip => (t.last.toList ++ t.text).reverse
  | .keep => (t.empties ++ t.last.toList ++ t.text).reverse

end BlockText

/-- The lines of a set-off text that are indented by `indent`, and what follows them. `inLine` says
that we are within a line, behind its indentation. -/
private def blockLines? (isFolded : Bool) (indent : Nat) (inLine : Bool) (t : BlockText) :
    List Letter → Option (BlockText × List Letter)
  | [] => some (t, [])
  | l :: ls =>
    if inLine then
      if isBreak l.char then blockLines? isFolded indent false { t with last := some l.char } ls
      else blockLines? isFolded indent true { t with text := l.char :: t.text } ls
    else if l.char == ' ' && l.column < indent then blockLines? isFolded indent false t ls
    else if l.char == '\t' && l.column < indent then none
    else if isBreak l.char then
      blockLines? isFolded indent false { t with empties := l.char :: t.empties } ls
    else if l.column = indent then
      blockLines? isFolded indent true
        ⟨l.char :: t.joined isFolded l.char, none, [], isGap l.char⟩ ls
    else some (t, l :: ls)

/-- The text behind the head of a set-off text, and what follows it. `least` is the indentation
that it has at least, and `outer` the one that a step counts from. -/
def block? (isFolded : Bool) (outer least : Nat) (ls : List Letter) :
    Option (List Char × List Letter) := do
  let (chomp, step, ls) := blockMarks ls
  let ls ← nextLine? ls
  let indent ← match step with
    | some n => some (outer + n)
    | none => (firstIndent? 0 ls).map fun deepest => max deepest (max least 1)
  let (t, rest) ← blockLines? isFolded indent false .start ls
  return (t.finish chomp, rest)

end AddressPlan.Yaml
