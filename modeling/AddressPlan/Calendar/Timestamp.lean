import AddressPlan.Calendar.Instant
import AddressPlan.Text.Blank
/-!
# Timestamps

The text of an instant is its date and its time in UTC with a `T` between and a `Z` at the end,
and as many fraction digits, in groups of three, as lose nothing. Two forms are read: the strict
one has exact widths and nothing around it; the lenient one also takes short and signed numbers,
blanks between its parts and looser zones.
-/
namespace AddressPlan.Instant
open Text

def padded (width n : Nat) : List Char :=
  let digits := Nat.toDigits 10 n
  List.replicate (width - digits.length) '0' ++ digits

/-- Four digits for the years 0 to 9999; a sign stands before any other year. -/
def yearText (year : Int) : List Char :=
  if 0 ≤ year ∧ year ≤ 9999 then padded 4 year.toNat
  else (if year < 0 then '-' else '+') :: padded 4 year.natAbs

def fractionText (nanosecond : Nat) : List Char :=
  if nanosecond = 0 then []
  else if nanosecond % 1000000 = 0 then '.' :: padded 3 (nanosecond / 1000000)
  else if nanosecond % 1000 = 0 then '.' :: padded 6 (nanosecond / 1000)
  else '.' :: padded 9 nanosecond

def chars (t : Instant) : List Char :=
  yearText t.date.year ++ '-' :: padded 2 t.date.month ++ '-' :: padded 2 t.date.day ++
  'T' :: padded 2 t.hour ++ ':' :: padded 2 t.minute ++ ':' :: padded 2 t.second ++
  fractionText t.nanosecond ++ ['Z']

def text (t : Instant) : String :=
  String.ofList t.chars

def number? (least most : Nat) (cs : List Char) : Option (Nat × List Char) :=
  let digits := (cs.take most).takeWhile Char.isDigit
  if digits.length < least then none
  else some (Nat.ofDigitChars 10 digits 0, cs.drop digits.length)

def skip? (c : Char) : List Char → Option (List Char)
  | d :: ds => if d = c then some ds else none
  | [] => none

def skipBlanks (cs : List Char) : List Char :=
  cs.dropWhile isBlank

/-- The nanoseconds after a point, if there is one; digits behind the ninth are dropped. -/
def fraction? : List Char → Option (Nat × List Char)
  | '.' :: cs =>
    let digits := cs.takeWhile Char.isDigit
    let kept := digits.take 9
    if digits.isEmpty then none
    else some (Nat.ofDigitChars 10 kept 0 * Nat.pow 10 (9 - kept.length), cs.drop digits.length)
  | cs => some (0, cs)

def skipDivider? : List Char → Option (List Char)
  | c :: cs => if c = 'T' ∨ c = 't' ∨ c = ' ' then some cs else none
  | [] => none

private def sign? : List Char → Option (Int × List Char)
  | '+' :: cs => some (1, cs)
  | '-' :: cs => some (-1, cs)
  | '\u2212' :: cs => some (-1, cs)
  | _ => none

private def offset? (sign : Int) (hours minutes : Nat) : Option Int :=
  if hours < 24 ∧ minutes < 60 then some (sign * (hours * 60 + minutes)) else none

def zone? : List Char → Option (Int × List Char)
  | 'Z' :: cs => some (0, cs)
  | 'z' :: cs => some (0, cs)
  | cs => do
    let (sign, cs) ← sign? cs
    let (hours, cs) ← number? 2 2 cs
    let cs ← skip? ':' cs
    let (minutes, cs) ← number? 2 2 cs
    return (← offset? sign hours minutes, cs)

def assemble? (year : Int) (month day hour minute second nanosecond : Nat) (offset : Int) :
    Option Instant := do
  let date ← Date.of? year month day
  let clock ← Instant.of? date hour minute second nanosecond
  clock.ahead? offset

def readStrict? (s : String) : Option Instant := do
  let (year, cs) ← number? 4 4 s.toList
  let cs ← skip? '-' cs
  let (month, cs) ← number? 2 2 cs
  let cs ← skip? '-' cs
  let (day, cs) ← number? 2 2 cs
  let cs ← skipDivider? cs
  let (hour, cs) ← number? 2 2 cs
  let cs ← skip? ':' cs
  let (minute, cs) ← number? 2 2 cs
  let cs ← skip? ':' cs
  let (second, cs) ← number? 2 2 cs
  let (nanosecond, cs) ← fraction? cs
  let (offset, cs) ← zone? cs
  if cs.isEmpty then assemble? year month day hour minute second nanosecond offset else none

/-- One to four digits, or a sign and any number of digits. -/
def lenientYear? (cs : List Char) : Option (Int × List Char) :=
  match skipBlanks cs with
  | '-' :: cs => (number? 1 cs.length cs).map fun (n, rest) => (-n, rest)
  | '+' :: cs => (number? 1 cs.length cs).map fun (n, rest) => (n, rest)
  | cs => (number? 1 4 cs).map fun (n, rest) => (n, rest)

def lenientNumber? (cs : List Char) : Option (Nat × List Char) :=
  number? 1 2 (skipBlanks cs)

def lenientSkip? (c : Char) (cs : List Char) : Option (List Char) :=
  skip? c (skipBlanks cs)

/-- `UTC` or `Z` in either case, or a sign and two digits, and then, after any colons and
blanks, two more digits. -/
def lenientZone? (cs : List Char) : Option (Int × List Char) :=
  match cs with
  | 'Z' :: rest => some (0, rest)
  | 'z' :: rest => some (0, rest)
  | _ =>
    if (cs.take 3).map Char.toUpper = ['U', 'T', 'C'] then some (0, cs.drop 3)
    else do
      let (sign, cs) ← sign? cs
      let (hours, cs) ← number? 2 2 cs
      let cs := cs.dropWhile fun c => c == ':' || isBlank c
      let (minutes, cs) ← number? 2 2 cs
      return (← offset? sign hours minutes, cs)

def readLenient? (s : String) : Option Instant := do
  let (year, cs) ← lenientYear? s.toList
  let cs ← lenientSkip? '-' cs
  let (month, cs) ← lenientNumber? cs
  let cs ← lenientSkip? '-' cs
  let (day, cs) ← lenientNumber? cs
  let cs ← skipDivider? cs
  let (hour, cs) ← lenientNumber? cs
  let cs ← lenientSkip? ':' cs
  let (minute, cs) ← lenientNumber? cs
  let cs ← lenientSkip? ':' cs
  let (second, cs) ← lenientNumber? cs
  let (nanosecond, cs) ← fraction? cs
  let (offset, cs) ← lenientZone? (skipBlanks cs)
  if (skipBlanks cs).isEmpty then
    assemble? year month day hour minute second nanosecond offset
  else none

end AddressPlan.Instant
