import AddressPlan.Json.Decimal
/-!
# Numbers

A number is a word, a negative word, or a double. A numeral is a word only if it has neither a
fraction nor an exponent and fits; anything else is a double, computed from as many leading
digits as fit a word.
-/
namespace AddressPlan.Json

inductive Number
  | natural (n : UInt64)
  /-- A number below zero. -/
  | negative (n : Int64)
  | real (bits : UInt64)
deriving DecidableEq

namespace Number

private def signBit : UInt64 := 0x8000000000000000

/-- Digits with a point behind the first `point` of them, padded with zeros where needed. -/
private def positional (digits : List Char) (point : Int) : List Char :=
  if point ≤ 0 then '0' :: '.' :: List.replicate (-point).toNat '0' ++ digits
  else if digits.length ≤ point.toNat then
    digits ++ List.replicate (point.toNat - digits.length) '0' ++ ['.', '0']
  else digits.take point.toNat ++ '.' :: digits.drop point.toNat

private def scientific (digits : List Char) (point : Int) : List Char :=
  let power := point - 1
  digits.take 1 ++ (if digits.length ≤ 1 then [] else '.' :: digits.drop 1) ++
    'e' :: (if power < 0 then '-' else '+') :: Nat.toDigits 10 power.natAbs

/-- The shortest decimal of a positive double. It is written with a power of ten if its point
would stand more than 16 digits behind the first digit or more than four zeros before it. -/
private def positiveText (bits : UInt64) : List Char :=
  let d := (Interval.ofBits bits).shortest
  let digits := Nat.toDigits 10 d.digits
  let point := digits.length + d.exponent
  if -5 < point ∧ point ≤ 16 then positional digits point else scientific digits point

def realText (bits : UInt64) : List Char :=
  let magnitude := bits &&& ~~~signBit
  let text := if magnitude = 0 then ['0', '.', '0'] else positiveText magnitude
  if bits &&& signBit = 0 then text else '-' :: text

def chars : Number → List Char
  | natural n => Nat.toDigits 10 n.toNat
  | negative n => '-' :: Nat.toDigits 10 n.toInt.natAbs
  | real bits => realText bits

end Number

structure Numeral where
  minus : Bool
  whole : List Char
  fraction : Option (List Char)
  /-- The sign and the digits of the power of ten. -/
  power : Option (Bool × List Char)
deriving DecidableEq

namespace Numeral

/-- Appends digits to a word as long as it fits, and returns the digits that are left. -/
def absorb (significand : Nat) : List Char → Nat × List Char
  | [] => (significand, [])
  | c :: cs =>
    let next := 10 * significand + (c.toNat - '0'.toNat)
    if next < UInt64.size then absorb next cs else (significand, c :: cs)

/-- Divides by ten to the power `e`, in steps of at most 308. A word is down to zero after three
such steps. -/
private def scaleDown (x : Float) (e : Nat) : Nat → Float
  | 0 => x
  | fuel + 1 =>
    if e ≤ 308 then x / Float.ofScientific 1 false e
    else scaleDown (x / Float.ofScientific 1 false 308) (e - 308) fuel

private def scale? (significand : Nat) (e : Int) : Option Float :=
  let x := (UInt64.ofNat significand).toFloat
  if significand = 0 then some x
  else if e < 0 then some (scaleDown x e.natAbs 4)
  else if 308 < e then none
  else
    let y := x * Float.ofScientific 1 false e.toNat
    if y.isInf then none else some y

def real? (n : Numeral) : Option Number :=
  let (significand, left) := absorb 0 n.whole
  let fraction := n.fraction.getD []
  let (significand, ignored) := absorb significand fraction
  let power := n.power.map fun (minus, digits) =>
    let e : Int := Nat.ofDigitChars 10 digits 0
    if minus then -e else e
  let e := (left.length : Int) - (fraction.length - ignored.length : Nat) + power.getD 0
  (scale? significand e).map fun x => .real (if n.minus then -x else x).toBits

def number? (n : Numeral) : Option Number :=
  let (significand, left) := absorb 0 n.whole
  if n.fraction.isNone && n.power.isNone && left.isEmpty then
    if !n.minus then some (.natural (UInt64.ofNat significand))
    else if 0 < significand ∧ significand ≤ UInt64.size / 2 then
      some (.negative (Int64.ofInt (-significand)))
    else n.real?
  else n.real?

end Numeral
end AddressPlan.Json
