/-!
# Tokens

A caller's right to go on with a run of calls.
-/
namespace AddressPlan

/-- A caller's right to go on. It ends after some number of further calls, or never. -/
structure Token where
  callsLeft : Option Nat
deriving DecidableEq

namespace Token

def live : Token := ⟨none⟩

def fired : Token := ⟨some 0⟩

def hasFired (t : Token) : Bool := t.callsLeft == some 0

def tick (t : Token) : Token := ⟨t.callsLeft.map (· - 1)⟩

end Token
end AddressPlan
