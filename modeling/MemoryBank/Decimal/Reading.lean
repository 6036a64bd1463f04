import MemoryBank.Decimal.Digits
import MemoryBank.Number.Word

set_option autoImplicit false

/-!
The double a decimal literal denotes: the significand is rounded first, then scaled by a power of
ten, and rounded again. A literal past the largest double denotes none.
-/

namespace MemoryBank.Decimal

/-- Significands are kept below this bound, further digits are dropped. -/
def significandBound : Nat := pow2 64

def tenTo (n : Nat) : Float := Float.ofScientific 1 false n

def scaleDown (x : Float) (n : Nat) : Float :=
  if n ≤ 308 then x / tenTo n
  else if x == 0.0 then x
  else scaleDown (x / tenTo 308) (n - 308)
  termination_by n

def scale? (significand : Nat) (exponent : Int) : Option Float :=
  let x := Float.ofNat significand
  if exponent < 0 then some (scaleDown x exponent.natAbs)
  else if 308 < exponent then (if significand = 0 then some x else none)
  else
    let y := x * tenTo exponent.toNat
    if y.isInf then none else some y

end MemoryBank.Decimal
