/-!
# UTF-8

The bytes of a text, and the characters of bytes. Bytes that are no UTF-8 are cut into the
shortest pieces that no character can continue; each such piece counts as one unknown character.
-/
namespace AddressPlan.Text

def utf8 (cs : List Char) : List UInt8 :=
  cs.flatMap String.utf8EncodeChar

def isContinuation (b : UInt8) : Bool :=
  0x80 ≤ b && b < 0xC0

/-- The bytes that may stand second behind a first byte of a character of three or four. -/
def isSecond (first second : UInt8) : Bool :=
  if first = 0xE0 then 0xA0 ≤ second && second < 0xC0
  else if first = 0xED then 0x80 ≤ second && second < 0xA0
  else if first = 0xF0 then 0x90 ≤ second && second < 0xC0
  else if first = 0xF4 then 0x80 ≤ second && second < 0x90
  else isContinuation second

private def low (b : UInt8) : Nat := b.toNat % 64

def firstChar : UInt8 → List UInt8 → Option Char × List UInt8
  | a, rest =>
    if a < 0x80 then (some (Char.ofNat a.toNat), rest)
    else if 0xC2 ≤ a && a < 0xE0 then
      match rest with
      | b :: rest' =>
        if isContinuation b then (some (Char.ofNat (a.toNat % 32 * 64 + low b)), rest')
        else (none, rest)
      | [] => (none, [])
    else if 0xE0 ≤ a && a < 0xF0 then
      match rest with
      | b :: rest' =>
        if isSecond a b then
          match rest' with
          | c :: rest'' =>
            if isContinuation c then
              (some (Char.ofNat (a.toNat % 16 * 4096 + low b * 64 + low c)), rest'')
            else (none, rest')
          | [] => (none, [])
        else (none, rest)
      | [] => (none, [])
    else if 0xF0 ≤ a && a < 0xF5 then
      match rest with
      | b :: rest' =>
        if isSecond a b then
          match rest' with
          | c :: rest'' =>
            if isContinuation c then
              match rest'' with
              | d :: rest''' =>
                if isContinuation d then
                  (some (Char.ofNat
                    (a.toNat % 8 * 262144 + low b * 4096 + low c * 64 + low d)), rest''')
                else (none, rest'')
              | [] => (none, [])
            else (none, rest')
          | [] => (none, [])
        else (none, rest)
      | [] => (none, [])
    else (none, rest)

theorem length_firstChar_le (a : UInt8) (rest : List UInt8) :
    (firstChar a rest).2.length ≤ rest.length := by
  unfold firstChar
  repeat' split
  all_goals simp <;> omega

/-- The characters of some bytes, with nothing in the place of a piece that is none. -/
def charsOfUtf8 : List UInt8 → List (Option Char)
  | [] => []
  | a :: rest => (firstChar a rest).1 :: charsOfUtf8 (firstChar a rest).2
termination_by bytes => bytes.length
decreasing_by
  have := length_firstChar_le a rest
  simp only [List.length_cons]
  omega

def fromUtf8? (bytes : List UInt8) : Option String :=
  ((charsOfUtf8 bytes).mapM id).map String.ofList

/-- The text of some bytes, with a replacement character for each piece that is none. -/
def fromUtf8Lossy (bytes : List UInt8) : String :=
  String.ofList ((charsOfUtf8 bytes).map (·.getD '\uFFFD'))

end AddressPlan.Text
