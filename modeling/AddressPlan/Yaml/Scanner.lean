import AddressPlan.Yaml.Token
/-!
# From characters to tokens

Blocks are told by indentation: a token opens where something stands deeper, and closes where
something stands less deep. A key on one line is seen only by the colon behind it, so the place
where it starts is kept, and its token is put there later.
-/
namespace AddressPlan.Yaml

/-- Where a key may have started: how many tokens stand before it, whether a colon has to follow,
and the place. -/
structure KeyStart where
  before : Nat
  required : Bool
  line : Nat
  column : Nat
  index : Nat

def KeyStart.reaches (k : KeyStart) (l : Letter) : Bool :=
  k.line == l.line && l.index ≤ k.index + 1024

/-- The columns of the open blocks, innermost first; the key that may have started last, and those
outside of each open bracket; whether a key may start here; and the tokens so far, last first. -/
structure Scanner where
  columns : List Nat
  key : Option KeyStart
  outerKeys : List (Option KeyStart)
  keyAllowed : Bool
  tokens : List Token
  count : Nat

namespace Scanner

def start : Scanner := ⟨[], none, [], true, [], 0⟩

def inFlow (s : Scanner) : Bool :=
  !s.outerKeys.isEmpty

/-- The least column that is deeper than the innermost block. -/
def least (s : Scanner) : Nat :=
  match s.columns with
  | [] => 0
  | column :: _ => column + 1

def insert (s : Scanner) (before : Nat) (token : Token) : Scanner :=
  let later := s.count - before
  { s with
    tokens := s.tokens.take later ++ token :: s.tokens.drop later
    count := s.count + 1 }

private def emit (s : Scanner) (token : Token) : Scanner :=
  { s with tokens := token :: s.tokens, count := s.count + 1 }

private def closeBeyond (column : Nat) (s : Scanner) : Scanner :=
  if s.inFlow then s
  else
    let deeper := s.columns.takeWhile (column < ·)
    { s with
      columns := s.columns.drop deeper.length
      tokens := deeper.map (fun _ => .blockEnd) ++ s.tokens
      count := s.count + deeper.length }

private def closeAll (s : Scanner) : Scanner :=
  if s.inFlow then s
  else
    { s with
      columns := []
      tokens := s.columns.map (fun _ => .blockEnd) ++ s.tokens
      count := s.count + s.columns.length }

private def openBlock (s : Scanner) (column before : Nat) (token : Token) : Scanner :=
  if s.inFlow || column < s.least then s
  else { s.insert before token with columns := column :: s.columns }

/-- Forgets the last start of a key, unless a colon has to follow it. -/
private def forgetKey (s : Scanner) : Option Scanner :=
  match s.key with
  | some k => if k.required then none else some { s with key := none }
  | none => some s

private def settleKey (s : Scanner) (l : Letter) : Option Scanner :=
  match s.key with
  | some k => if k.reaches l then some s else s.forgetKey
  | none => some s

/-- A key may start here. A colon has to follow it where an entry of the innermost block starts. -/
private def saveKey (s : Scanner) (l : Letter) : Option Scanner :=
  if s.keyAllowed then do
    let s ← s.forgetKey
    let required := !s.inFlow && s.columns.head? == some l.column
    return { s with key := some ⟨s.count, required, l.line, l.column, l.index⟩ }
  else some s

/-- A token that may be a key, or the head of one. No key starts right behind it. -/
private def emitNode (s : Scanner) (l : Letter) (token : Token) : Option Scanner := do
  return { (← s.saveKey l).emit token with keyAllowed := false }

private def emitOuter (s : Scanner) (token : Token) : Option Scanner := do
  return { (← s.closeAll.forgetKey).emit token with keyAllowed := false }

private def openFlow (s : Scanner) (l : Letter) (token : Token) : Option Scanner := do
  let s ← s.saveKey l
  return { s.emit token with key := none, outerKeys := s.key :: s.outerKeys, keyAllowed := true }

private def closeFlow (s : Scanner) (token : Token) : Option Scanner := do
  let s ← s.forgetKey
  let s := match s.outerKeys with
    | [] => s
    | key :: outer => { s with key := key, outerKeys := outer }
  return { s.emit token with keyAllowed := false }

def comma (s : Scanner) : Option Scanner := do
  return { (← s.forgetKey).emit .comma with keyAllowed := true }

def item (s : Scanner) (l : Letter) : Option Scanner :=
  if s.inFlow || s.keyAllowed then do
    let s ← (s.openBlock l.column s.count .sequenceStart).forgetKey
    return { s.emit .item with keyAllowed := true }
  else none

private def keyMark (s : Scanner) (l : Letter) : Option Scanner :=
  if s.inFlow || s.keyAllowed then do
    let s ← (s.openBlock l.column s.count .mappingStart).forgetKey
    return { s.emit .key with keyAllowed := !s.inFlow }
  else none

/-- The mark of a value at a place. The key before it is the one that has started last, or one
that has a mark of its own. -/
private def valueMark (s : Scanner) (l : Letter) : Option Scanner :=
  match s.key with
  | some k =>
    let s := (s.insert k.before .key).openBlock k.column k.before .mappingStart
    some { s.emit .value with key := none, keyAllowed := false }
  | none =>
    if s.inFlow || s.keyAllowed then
      let s := s.openBlock l.column s.count .mappingStart
      some { s.emit .value with keyAllowed := !s.inFlow }
    else none

/-- Whether a key may start, and what comes next, behind the blanks, the ends of lines and the
comments. A tab is no blank where a key may start. -/
private def toToken (inFlow keyAllowed inComment : Bool) : List Letter → Bool × List Letter
  | [] => (keyAllowed, [])
  | l :: ls =>
    if isBreak l.char then toToken inFlow (keyAllowed || !inFlow) false ls
    else if inComment then toToken inFlow keyAllowed true ls
    else if l.char == ' ' || (l.char == '\t' && (inFlow || !keyAllowed)) ||
        (l.char == '\uFEFF' && l.column == 0) then
      toToken inFlow keyAllowed false ls
    else if l.char == '#' then toToken inFlow keyAllowed true ls
    else (keyAllowed, l :: ls)

def plain (s : Scanner) (l : Letter) (rest : List Letter) : Option (Scanner × List Letter) := do
  let (text, broken, rest) ← plain? s.inFlow s.least .empty [] (l :: rest)
  let s ← s.emitNode l (.scalar .plain (String.ofList text.reverse))
  return ({ s with keyAllowed := broken }, rest)

def quoted (s : Scanner) (l : Letter) (read : Option (List Char × List Letter)) :
    Option (Scanner × List Letter) := do
  let (text, rest) ← read
  return (← s.emitNode l (.scalar .quoted (String.ofList text)), rest)

def block (s : Scanner) (style : Style) (rest : List Letter) : Option (Scanner × List Letter) := do
  if s.inFlow then none
  else
    let s ← s.forgetKey
    let (text, rest) ← block? (style = .folded) (s.columns.head?.getD 0) s.least rest
    return ({ s.emit (.scalar style (String.ofList text)) with keyAllowed := true }, rest)

/-- The token that starts with a character, and what follows it. -/
def step (s : Scanner) (l : Letter) (rest : List Letter) : Option (Scanner × List Letter) :=
  if l.column == 0 && l.char == '%' then do
    let (token, rest) ← directive? rest
    return (← s.emitOuter token, rest)
  else if isMark '-' (l :: rest) then do return (← s.emitOuter .documentStart, rest.drop 2)
  else if isMark '.' (l :: rest) then do return (← s.emitOuter .documentEnd, rest.drop 2)
  else
    match l.char with
    | '[' => do return (← s.openFlow l .flowSequenceStart, rest)
    | '{' => do return (← s.openFlow l .flowMappingStart, rest)
    | ']' => do return (← s.closeFlow .flowSequenceEnd, rest)
    | '}' => do return (← s.closeFlow .flowMappingEnd, rest)
    | ',' => do return (← s.comma, rest)
    | '-' => if atSpace rest then do return (← s.item l, rest) else s.plain l rest
    | '?' =>
      if s.inFlow || atSpace rest then do return (← s.keyMark l, rest) else s.plain l rest
    | ':' =>
      if s.inFlow || atSpace rest then do return (← s.valueMark l, rest) else s.plain l rest
    | '*' => do
      let (name, rest) ← anchorName? rest
      return (← s.emitNode l (.reference name), rest)
    | '&' => do
      let (name, rest) ← anchorName? rest
      return (← s.emitNode l (.anchor name), rest)
    | '!' => do
      let (tag, rest) ← tag? s.inFlow rest
      return (← s.emitNode l (.tag tag), rest)
    | '|' => s.block .literal rest
    | '>' => s.block .folded rest
    | '\'' => s.quoted l (single? .empty [] rest)
    | '"' => s.quoted l (double? (.text .empty) [] rest)
    | c => if isSpace c || "#%@`".toList.contains c then none else s.plain l rest

def run : Nat → Scanner → List Letter → Option Scanner
  | 0, _, _ => none
  | fuel + 1, s, ls =>
    let (keyAllowed, ls) := toToken s.inFlow s.keyAllowed false ls
    let s := { s with keyAllowed := keyAllowed }
    match ls with
    | [] => s.closeAll.forgetKey
    | l :: rest => do
      let s ← s.settleKey l
      let (s, rest) ← (s.closeBeyond l.column).step l rest
      run fuel s rest

end Scanner

/-- The tokens of a file. Each takes one character at least. -/
def tokens? (ls : List Letter) : Option (List Token) :=
  (Scanner.start.run (ls.length + 1) ls).map fun s => s.tokens.reverse

end AddressPlan.Yaml
