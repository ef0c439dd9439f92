/-!
# Decimal numerals

Reading of bounded natural numbers and of signed 64-bit integers. A plus sign in front and
leading zeros are allowed; the first fault from the left decides which error is reported.
-/
namespace AddressPlan.Text

inductive NumeralError
  | empty
  | badDigit
  | tooLarge
deriving DecidableEq

def NumeralError.message : NumeralError → String
  | .empty => "cannot parse integer from empty string"
  | .badDigit => "invalid digit found in string"
  | .tooLarge => "number too large to fit in target type"

private def readDigits (bound : Nat) (value : Nat) : List Char → Except NumeralError Nat
  | [] => .ok value
  | c :: cs =>
    if c.isDigit then
      let next := 10 * value + (c.toNat - '0'.toNat)
      if next < bound then readDigits bound next cs else .error .tooLarge
    else .error .badDigit

private def readNatural (bound : Nat) (s : String) : Except NumeralError Nat :=
  match s.toList with
  | [] => .error .empty
  | ['+'] => .error .badDigit
  | '+' :: cs => readDigits bound 0 cs
  | cs => readDigits bound 0 cs

def readUInt8 (s : String) : Except NumeralError UInt8 :=
  UInt8.ofNat <$> readNatural UInt8.size s

def readUInt64 (s : String) : Except NumeralError UInt64 :=
  UInt64.ofNat <$> readNatural UInt64.size s

def readInt64? (s : String) : Option Int64 :=
  match s.toList with
  | [] => none
  | ['-'] => none
  | '-' :: cs => (readDigits (UInt64.size / 2 + 1) 0 cs).toOption.map fun n => Int64.ofInt (-n)
  | _ => (readNatural (UInt64.size / 2) s).toOption.map fun n => Int64.ofInt n

end AddressPlan.Text
