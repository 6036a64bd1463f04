import MemoryBank.Number.Word

set_option autoImplicit false

/-!
A finite double is `mantissa * 2 ^ exponent`, with a sign kept apart.
-/

namespace MemoryBank

structure Scaled where
  mantissa : Nat
  exponent : Int

namespace Binary64

def negative (x : Float) : Bool := x.toBits.toNat / pow2 63 == 1

def biasedExponent (x : Float) : Nat := x.toBits.toNat / pow2 52 % pow2 11

def fraction (x : Float) : Nat := x.toBits.toNat % pow2 52

def finite (x : Float) : Bool := biasedExponent x != 2047

def scaled (x : Float) : Scaled :=
  if biasedExponent x = 0 then ⟨fraction x, -1074⟩
  else ⟨fraction x + pow2 52, (biasedExponent x : Int) - 1075⟩

/-- The double `mantissa * 2 ^ exponent`, for a mantissa of at most 53 bits whose value is in the
normal range. -/
def ofScaled (isNegative : Bool) (s : Scaled) : Float :=
  let sign := if isNegative then pow2 63 else 0
  if s.mantissa = 0 then Float.ofBits (UInt64.ofNat sign)
  else
    let top := s.mantissa.log2
    let biased := (s.exponent + top + 1023).toNat
    Float.ofBits (UInt64.ofNat (sign + biased * pow2 52 + (s.mantissa * pow2 (52 - top) - pow2 52)))

def infinity (isNegative : Bool) : Float :=
  Float.ofBits (if isNegative then 0xFFF0000000000000 else 0x7FF0000000000000)

def undefined : Float := Float.ofBits 0x7FF8000000000000

example : ofScaled false (scaled 1.5) = 1.5 := by decide +kernel
example : ofScaled true (scaled 0.1) = -0.1 := by decide +kernel

end Binary64

end MemoryBank
