import AddressPlan.Json.Number
import AddressPlan.Keyed
/-!
# JSON values

Values as they are written: objects keep their fields in order. A value is written without
blanks; in strings only quotes, backslashes and control characters are escaped.
-/
namespace AddressPlan.Json

inductive Value
  | null
  | bool (b : Bool)
  | number (n : Number)
  | string (s : String)
  | array (items : List Value)
  | object (fields : List (String × Value))

namespace Value

instance : Inhabited Value := ⟨null⟩

def nat (n : UInt64) : Value := number (.natural n)

def count (n : Nat) : Value := nat (UInt64.ofNat n)

def option {α : Type} (f : α → Value) : Option α → Value
  | none => null
  | some a => f a

def list {α : Type} (f : α → Value) (as : List α) : Value :=
  array (as.map f)

def named {α : Type} (f : α → Value) (as : Named α) : Value :=
  object (as.rows.map fun (k, a) => (k, f a))

def field? (name : String) : Value → Option Value
  | object fields => (fields.find? (·.1 = name)).map Prod.snd
  | _ => none

end Value

def controlDigits (n : Nat) : List Char :=
  [Nat.digitChar (n / 16), Nat.digitChar (n % 16)]

def escapeChar (c : Char) : List Char :=
  if c = '"' then ['\\', '"']
  else if c = '\\' then ['\\', '\\']
  else if c = '\x08' then ['\\', 'b']
  else if c = '\x0c' then ['\\', 'f']
  else if c = '\n' then ['\\', 'n']
  else if c = '\r' then ['\\', 'r']
  else if c = '\t' then ['\\', 't']
  else if c.toNat < 0x20 then '\\' :: 'u' :: '0' :: '0' :: controlDigits c.toNat
  else [c]

def quoted (s : String) : List Char :=
  '"' :: s.toList.flatMap escapeChar ++ ['"']

mutual

def Value.chars : Value → List Char
  | .null => ['n', 'u', 'l', 'l']
  | .bool true => ['t', 'r', 'u', 'e']
  | .bool false => ['f', 'a', 'l', 's', 'e']
  | .number n => n.chars
  | .string s => quoted s
  | .array [] => ['[', ']']
  | .array (v :: vs) => '[' :: v.chars ++ itemsChars vs
  | .object [] => ['{', '}']
  | .object ((k, v) :: fields) => '{' :: quoted k ++ ':' :: v.chars ++ fieldsChars fields

def itemsChars : List Value → List Char
  | [] => [']']
  | v :: vs => ',' :: v.chars ++ itemsChars vs

def fieldsChars : List (String × Value) → List Char
  | [] => ['}']
  | (k, v) :: fields => ',' :: quoted k ++ ':' :: v.chars ++ fieldsChars fields

end

def Value.text (v : Value) : String :=
  String.ofList v.chars

end AddressPlan.Json
