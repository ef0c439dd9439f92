import AddressPlan.Text.CaseTable
/-!
# Lower case

The full lower-case mapping of a text. Each character maps by itself, with two exceptions: the
dotted capital I becomes two characters, and a capital sigma becomes the final form of the small
sigma where it ends a word.
-/
namespace AddressPlan.Text

private def inRanges (ranges : List (Nat × Nat)) (c : Char) : Bool :=
  ranges.any fun (first, last) => first ≤ c.toNat && c.toNat ≤ last

def isCased (c : Char) : Bool :=
  inRanges casedRanges c

def isCaseIgnorable (c : Char) : Bool :=
  inRanges caseIgnorableRanges c

def CaseRange.holds (r : CaseRange) (n : Nat) : Bool :=
  r.first ≤ n && n ≤ r.last && (n - r.first) % r.step == 0

def lowerChar (c : Char) : Char :=
  if c.toNat < 0x80 then c.toLower
  else match lowerCaseRanges.find? (·.holds c.toNat) with
    | some r => Char.ofNat (c.toNat + r.distance).toNat
    | none => c

/-- The next character that case conditions do not look through is cased. -/
def casedNext (cs : List Char) : Bool :=
  match cs.dropWhile isCaseIgnorable with
  | c :: _ => isCased c
  | [] => false

def lowerSigma (before after : List Char) : Char :=
  if casedNext before && !casedNext after then 'ς' else 'σ'

/-- Lowers the rest of a text, given what stands before it, nearest character first. -/
def lowerFrom (before : List Char) : List Char → List Char
  | [] => []
  | c :: cs =>
    if c = 'Σ' then lowerSigma before cs :: lowerFrom (c :: before) cs
    else if c = 'İ' then 'i' :: '\u0307' :: lowerFrom (c :: before) cs
    else lowerChar c :: lowerFrom (c :: before) cs

def lowerChars (cs : List Char) : List Char :=
  lowerFrom [] cs

def lowercase (s : String) : String :=
  String.ofList (lowerChars s.toList)

end AddressPlan.Text
