/-!
# Shortest decimals

A binary floating-point number stands for every real that rounds to it. Its shortest decimal is
the one with the fewest digits among those reals and, of these, the nearest to the number. The
search goes from coarse decimal grids to fine ones and is exact, in natural numbers.
-/
namespace AddressPlan.Json

/-- The numbers `value / 4`, `below / 4` and `above / 4`, each times two to the power
`exponent`: a floating-point number and the ends of the interval that rounds to it. -/
structure Interval where
  below : Nat
  value : Nat
  above : Nat
  exponent : Int
  /-- The ends themselves round to the number. -/
  closed : Bool
deriving DecidableEq

def Interval.ofBits (bits : UInt64) : Interval :=
  let mantissa : Nat := bits.toNat % 0x10000000000000
  let field : Nat := bits.toNat / 0x10000000000000 % 0x800
  let m := if field = 0 then mantissa else mantissa + 0x10000000000000
  { below := if mantissa = 0 ∧ 1 < field then 4 * m - 1 else 4 * m - 2
    value := 4 * m
    above := 4 * m + 2
    exponent := (if field = 0 then 1 else (field : Int)) - 1075
    closed := m % 2 = 0 }

/-- A decimal: `digits` times ten to the power `exponent`. -/
structure Decimal where
  digits : Nat
  exponent : Int
deriving DecidableEq

namespace Interval

/-- The factor that brings a quarter of the interval's unit to a common scale with the grid. -/
def unit (i : Interval) (grid : Int) : Nat :=
  Nat.pow 2 (i.exponent - 2).toNat * Nat.pow 10 (-grid).toNat

def step (i : Interval) (grid : Int) : Nat :=
  Nat.pow 10 grid.toNat * Nat.pow 2 (2 - i.exponent).toNat

def holds (i : Interval) (grid : Int) (multiple : Nat) : Bool :=
  let x := multiple * i.step grid
  let low := i.below * i.unit grid
  let high := i.above * i.unit grid
  if i.closed then low ≤ x && x ≤ high else low < x && x < high

/-- The nearest multiple of the grid to the number that rounds to it, if there is one. Of two at
the same distance the even one counts. -/
private def nearest? (i : Interval) (grid : Int) : Option Nat :=
  let down := i.value * i.unit grid / i.step grid
  let up := down + 1
  if i.holds grid down then
    if i.holds grid up then
      let rest := i.value * i.unit grid % i.step grid
      if 2 * rest < i.step grid ∨ (2 * rest = i.step grid ∧ down % 2 = 0) then some down
      else some up
    else some down
  else if i.holds grid up then some up
  else none

def search (i : Interval) : Nat → Int → Decimal
  | 0, grid => ⟨0, grid⟩
  | fuel + 1, grid =>
    match i.nearest? grid with
    | some digits => ⟨digits, grid⟩
    | none => i.search fuel (grid - 1)

/-- The shortest decimal of the interval. The coarsest grid is beyond the largest double, the
finest one is below the spacing of the smallest. -/
def shortest (i : Interval) : Decimal :=
  i.search 700 310

end Interval
end AddressPlan.Json
