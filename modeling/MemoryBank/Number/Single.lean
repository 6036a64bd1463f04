import MemoryBank.Number.Binary64

set_option autoImplicit false

/-!
Single-precision numbers, the components of embedding vectors and the scores of search hits. They
are kept as bits: narrowing rounds to the nearest, a tie to the even neighbour, and widening is
exact.
-/

namespace MemoryBank

structure Single where
  bits : UInt32
  deriving DecidableEq, Inhabited

abbrev Embedding := List Single

namespace Single

def signBit (negative : Bool) : Nat := if negative then pow2 31 else 0

def infinityBits : Nat := 255 * pow2 23

def negative (x : Single) : Bool := pow2 31 ≤ x.bits.toNat

def magnitude (x : Single) : Nat := x.bits.toNat % pow2 31

def finite (x : Single) : Bool := x.magnitude < infinityBits

def nearestEven (n d : Nat) : Nat :=
  let q := n / d
  let twice := 2 * (n % d)
  if twice < d then q else if d < twice then q + 1 else q + q % 2

/-- Rounds `mantissa * 2 ^ exponent`. The last place kept is the 24th bit, or `2 ^ -149` where that
is coarser. -/
def round (isNegative : Bool) (s : Scaled) : Single :=
  if s.mantissa = 0 then ⟨UInt32.ofNat (signBit isNegative)⟩
  else
    let place := max (s.exponent + s.mantissa.log2 - 23) (-149)
    let units :=
      if place ≤ s.exponent then s.mantissa * pow2 (s.exponent - place).toNat
      else nearestEven s.mantissa (pow2 (place - s.exponent).toNat)
    -- a carry out of the mantissa goes on into the exponent
    let magnitude := (place + 149).toNat * pow2 23 + units
    ⟨UInt32.ofNat (signBit isNegative + min magnitude infinityBits)⟩

def ofFloat (x : Float) : Single :=
  if Binary64.finite x then round (Binary64.negative x) (Binary64.scaled x)
  else if Binary64.fraction x = 0 then
    ⟨UInt32.ofNat (signBit (Binary64.negative x) + infinityBits)⟩
  else ⟨0x7FC00000⟩

def ofInt (n : Int) : Single := round (n < 0) ⟨n.natAbs, 0⟩

def toFloat (x : Single) : Float :=
  let biased : Nat := x.magnitude / pow2 23
  let fraction : Nat := x.magnitude % pow2 23
  if biased = 255 then
    if fraction = 0 then Binary64.infinity x.negative else Binary64.undefined
  else if biased = 0 then Binary64.ofScaled x.negative ⟨fraction, -149⟩
  else Binary64.ofScaled x.negative ⟨fraction + pow2 23, (biased : Int) - 150⟩

/-- Orders all values, infinities and the zeros included: -0.0 stands just below 0.0. -/
def rank (x : Single) : Int :=
  if x.negative then -(x.magnitude : Int) - 1 else (x.magnitude : Int)

def least : Single := ⟨0xFF7FFFFF⟩

def zero : Single := ⟨0⟩

example : ofFloat 0.5 = ⟨0x3F000000⟩ := by decide +kernel
example : (ofFloat 0.1).toFloat = 0.10000000149011612 := by decide +kernel
example : ofFloat 1.0e300 = ⟨0x7F800000⟩ := by decide +kernel
example : least.toFloat = -3.4028234663852886e38 := by decide +kernel
example : (ofFloat 1.0e-45).toFloat = 1.401298464324817e-45 := by decide +kernel

end Single

end MemoryBank
