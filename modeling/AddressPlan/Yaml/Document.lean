import AddressPlan.Yaml.Scanner
/-!
# From tokens to a document

A file holds one document at most. Anchors are numbered as they come: a name gets the count of the
names before it, and so does a name that is given again, so that the next new name shares its
number. Handles of tags have to be known.
-/
namespace AddressPlan.Yaml

/-- What a document is read from: the tokens that are left, and the numbers of the names of
anchors. -/
structure Feed where
  tokens : List Token
  names : List (String × Nat)

abbrev Reading := ReaderT (List (String × String)) (StateT Feed Option)

namespace Reading

private def peek : Reading (Option Token) :=
  return (← get).tokens.head?

def skip : Reading Unit :=
  modify fun feed => { feed with tokens := feed.tokens.drop 1 }

/-- Passes over a token, if it comes next. -/
private def skipIf (token : Token) : Reading Bool := do
  if (← peek) = some token then
    skip
    return true
  else return false

/-- Passes over the comma in front of an item, which is not there for the first one. -/
private def skipComma (isFirst : Bool) : Reading Bool :=
  if isFirst then return true else skipIf .comma

private def isNext (tokens : List Token) : Reading Bool := do
  return match ← peek with
    | some token => tokens.contains token
    | none => false

private def define : Option String → Reading (Option Nat)
  | none => return none
  | some name => do
    let names := (← get).names
    modify fun feed =>
      { feed with names := (name, names.length) :: names.filter (·.1 ≠ name) }
    return some names.length

private def properties : Reading (Option String × Option Tag) := do
  match (← get).tokens with
  | .anchor name :: .tag tag :: _ => skip; skip; return (some name, some tag)
  | .tag tag :: .anchor name :: _ => skip; skip; return (some name, some tag)
  | .anchor name :: _ => skip; return (some name, none)
  | .tag tag :: _ => skip; return (none, some tag)
  | _ => return (none, none)

private def fullTag : Option Tag → Reading (Option String)
  | none => return none
  | some tag => do
    let name ←
      if tag.handle = "" then pure tag.suffix
      else
        match (← read).lookup tag.handle with
        | some head => pure (head ++ tag.suffix)
        | none => failure
    return if name = "!" then none else some name

mutual

/-- A node. In a block it may be a block itself, and where `bare` says so a sequence need not be
deeper than what it belongs to. -/
def node (inBlock bare : Bool) : Nat → Reading Node
  | 0 => failure
  | fuel + 1 => do
    match ← peek with
    | some (.reference name) =>
      skip
      match (← get).names.lookup name with
      | some anchor => return .reference anchor
      | none => failure
    | _ =>
      let (name, written) ← properties
      let tag ← fullTag written
      let anchor ← define name
      match ← peek with
      | some (.scalar style text) => skip; return .scalar anchor tag style text
      | some .flowSequenceStart => skip; return .sequence anchor (← flowItems true fuel)
      | some .flowMappingStart => skip; return .mapping anchor (← flowEntries true fuel)
      | next =>
        if bare && next = some .item then return .sequence anchor (← bareItems fuel)
        else if inBlock && next = some .sequenceStart then
          skip
          return .sequence anchor (← blockItems fuel)
        else if inBlock && next = some .mappingStart then
          skip
          return .mapping anchor (← blockEntries fuel)
        else if name.isSome || written.isSome then return .scalar anchor tag .plain ""
        else failure

private def nodeUnless (ends : List Token) (inBlock bare : Bool) : Nat → Reading Node
  | 0 => failure
  | fuel + 1 => do
    if ← isNext ends then return .absent else node inBlock bare fuel

private def blockItems : Nat → Reading (List Node)
  | 0 => failure
  | fuel + 1 => do
    if ← skipIf .item then
      let item ← nodeUnless [.item, .blockEnd] true false fuel
      return item :: (← blockItems fuel)
    else if ← skipIf .blockEnd then return []
    else failure

private def bareItems : Nat → Reading (List Node)
  | 0 => failure
  | fuel + 1 => do
    if ← skipIf .item then
      let item ← nodeUnless [.item, .key, .value, .blockEnd] true false fuel
      return item :: (← bareItems fuel)
    else return []

private def blockEntries : Nat → Reading (List (Node × Node))
  | 0 => failure
  | fuel + 1 => do
    if ← skipIf .key then
      let key ← nodeUnless [.key, .value, .blockEnd] true true fuel
      let value ←
        if ← skipIf .value then nodeUnless [.key, .value, .blockEnd] true true fuel
        else pure .absent
      return (key, value) :: (← blockEntries fuel)
    else if ← skipIf .blockEnd then return []
    else failure

/-- The items of a sequence in brackets; a comma stands before each but the first. A key makes a
mapping of one entry. -/
private def flowItems (isFirst : Bool) : Nat → Reading (List Node)
  | 0 => failure
  | fuel + 1 => do
    if ← skipIf .flowSequenceEnd then return []
    else if ← skipComma isFirst then
      if ← skipIf .key then
        let key ← flowKey fuel
        let value ← flowValue .flowSequenceEnd fuel
        return .mapping none [(key, value)] :: (← flowItems false fuel)
      else if ← skipIf .flowSequenceEnd then return []
      else
        let item ← node false false fuel
        return item :: (← flowItems false fuel)
    else failure

/-- The key of a mapping of one entry. Where it is left out, the token behind it goes with it. -/
private def flowKey : Nat → Reading Node
  | 0 => failure
  | fuel + 1 => do
    if ← isNext [.value, .comma, .flowSequenceEnd] then
      skip
      return .absent
    else node false false fuel

private def flowValue (close : Token) : Nat → Reading Node
  | 0 => failure
  | fuel + 1 => do
    if ← skipIf .value then nodeUnless [.comma, close] false false fuel
    else return .absent

private def flowEntries (isFirst : Bool) : Nat → Reading (List (Node × Node))
  | 0 => failure
  | fuel + 1 => do
    if ← skipIf .flowMappingEnd then return []
    else if ← skipComma isFirst then
      if ← skipIf .key then
        let key ← nodeUnless [.value, .comma, .flowMappingEnd] false false fuel
        let value ← flowValue .flowMappingEnd fuel
        return (key, value) :: (← flowEntries false fuel)
      else if ← skipIf .flowMappingEnd then return []
      else
        let key ← node false false fuel
        return (key, .absent) :: (← flowEntries false fuel)
    else failure

end

end Reading

/-- The handles that the directives in front of a document name, and what follows them. A version
may be named once, and a handle too. -/
private def directives? (versioned : Bool) (handles : List (String × String)) :
    List Token → Option (List (String × String) × List Token)
  | .version major minor :: tokens =>
    if !versioned && major = 1 && (minor = 1 || minor = 2) then directives? true handles tokens
    else none
  | .handle name head :: tokens =>
    if (handles.lookup name).isNone then
      directives? versioned (handles ++ [(name, head)]) tokens
    else none
  | tokens => some (handles, tokens)

private def standardHandles : List (String × String) :=
  [("!", "!"), ("!!", "tag:yaml.org,2002:")]

/-- The node that the tokens of one document spell. Marks of its end may follow. Between two tokens
no more than four steps go by. -/
private def whole? (handles : List (String × String)) (tokens : List Token) : Option Node := do
  let reading := Reading.node true false (4 * tokens.length + 4)
  let (node, feed) ← (reading.run (handles ++ standardHandles)).run ⟨tokens, []⟩
  if feed.tokens.all (· = .documentEnd) then return node else none

/-- The node of the only document of a file. Directives need a mark behind them that opens the
document, and only behind such a mark the node may be left out. -/
def document? (s : String) : Option Node := do
  let tokens ← tokens? (← letters? s)
  let (handles, rest) ← directives? false [] tokens
  match rest with
  | .documentStart :: rest =>
    if rest.all (· = .documentEnd) then return .absent else whole? handles rest
  | _ =>
    if tokens.isEmpty then return .absent
    else if rest = tokens then whole? [] tokens
    else none

end AddressPlan.Yaml
