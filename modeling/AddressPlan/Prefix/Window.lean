import AddressPlan.Refusal
/-!
# Windows of child blocks

The blocks of one length that tile a prefix, from an offset on and up to a limit. The k-th block
starts k steps behind the parent's first address; only the window that was asked for is built.
-/
namespace AddressPlan.Prefix

/-- The usable host addresses of a block of the given length. The first and the last address are
left out, except in a point-to-point link of two addresses and in a single address. -/
def usableHosts (len : Nat) : Except Invalid UInt64 :=
  if len ≤ 30 then .ok (1 <<< UInt64.ofNat (32 - len) - 2)
  else if len = 31 then .ok 2
  else if len = 32 then .ok 1
  else .error (.lengthTooLong len)

structure Window where
  blocks : List Prefix
  usableHosts : UInt64
  /-- How many blocks of that length the parent holds. -/
  total : UInt64
deriving DecidableEq

def child (parent : Prefix) (len : Nat) (h : len ≤ 32) (k : UInt64) : Prefix :=
  let step : UInt64 := 1 <<< UInt64.ofNat (32 - len)
  ofAddress (parent.network.toUInt64 + k * step).toUInt32 len h

/-- The child blocks of one length from the `offset`-th on, `limit` of them at most; a limit of
zero stands for all that are left. -/
def window (parent : Prefix) (len : Nat) (offset limit : UInt64) : Except Invalid Window :=
  if h : len ≤ 32 then
    if len < parent.length then .error (.childTooShort len parent)
    else do
      let total : UInt64 := 1 <<< UInt64.ofNat (len - parent.length)
      let start := min offset total
      let rest := total - start
      let count := if limit = 0 then rest else min limit rest
      let hosts ← Prefix.usableHosts len
      return {
        blocks := (List.range count.toNat).map fun k =>
          parent.child len h (start + UInt64.ofNat k)
        usableHosts := hosts
        total := total }
  else .error (.childTooLong len)

end AddressPlan.Prefix
