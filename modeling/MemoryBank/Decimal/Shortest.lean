import MemoryBank.Decimal.Digits
import MemoryBank.Number.Binary64

set_option autoImplicit false

/-!
The shortest decimal that reads back as a given double: of the decimals in the interval that rounds
to the double, one with the fewest digits, and of those the nearest.
-/

namespace MemoryBank.Decimal

/-- The number `digits * 10 ^ exponent`. -/
structure Numeral where
  digits : Nat
  exponent : Int
  deriving DecidableEq

def exponentBelow (num den : Nat) : Int :=
  if den ≤ num then (count (num / den) : Int) - 1
  else -(count ((den + num - 1) / num - 1) : Int)

/-- The reals that round to a positive double, in quarters of the double's last place. -/
structure Interval where
  low : Nat
  value : Nat
  high : Nat
  -- Both ends round to the double too.
  closed : Bool
  -- A quarter place is `2 ^ exponent`.
  exponent : Int

def Interval.ofScaled (s : Scaled) : Interval where
  -- below a power of two the places are half as wide
  low := if s.mantissa = pow2 52 && s.exponent != -1074 then 4 * s.mantissa - 1
    else 4 * s.mantissa - 2
  value := 4 * s.mantissa
  high := 4 * s.mantissa + 2
  closed := s.mantissa % 2 == 0
  exponent := s.exponent - 2

/-- The point nearest to the value among the multiples of `10 ^ exponent` in the interval, a tie
going to the even multiple. -/
def Interval.nearest? (i : Interval) (exponent : Int) : Option Nat :=
  let point := pow10 exponent.toNat * pow2 (-i.exponent).toNat
  let quarter := pow10 (-exponent).toNat * pow2 i.exponent.toNat
  let inside (d : Nat) : Bool :=
    if i.closed then i.low * quarter ≤ d * point && d * point ≤ i.high * quarter
    else i.low * quarter < d * point && d * point < i.high * quarter
  let below := i.value * quarter / point
  let above := below + 1
  match inside below, inside above with
  | true, true =>
      let down := i.value * quarter - below * point
      let up := above * point - i.value * quarter
      if down < up || (down == up && below % 2 == 0) then some below else some above
  | true, false => some below
  | false, true => some above
  | false, false => none

def Interval.search (i : Interval) (top : Int) : Nat → Nat → Numeral
  -- Tries grids from `places` digits on, each ten times as fine as the one before.
  | 0, places => ⟨i.value, top - places⟩
  | fuel + 1, places =>
      let exponent := top - places + 1
      match i.nearest? exponent with
      | some d => ⟨d, exponent⟩
      | none => i.search top fuel (places + 1)

def Numeral.normalize (d : Numeral) : Numeral :=
  if _h : d.digits ≠ 0 ∧ d.digits % 10 = 0 then
    Numeral.normalize ⟨d.digits / 10, d.exponent + 1⟩
  else d
  termination_by d.digits

def shortest (s : Scaled) : Numeral :=
  -- Seventeen digits always suffice.
  let i := Interval.ofScaled s
  let top := exponentBelow (s.mantissa * pow2 s.exponent.toNat) (pow2 (-s.exponent).toNat)
  (i.search top 17 1).normalize

example : shortest (Binary64.scaled 0.1) = ⟨1, -1⟩ := by decide +kernel
example : shortest (Binary64.scaled 5.0e-324) = ⟨5, -324⟩ := by decide +kernel
example : shortest (Binary64.scaled 9007199254740993.0) = ⟨9007199254740992, 0⟩ := by
  decide +kernel
example : shortest (Binary64.scaled 1.7976931348623157e308) = ⟨17976931348623157, 292⟩ := by
  decide +kernel
example : shortest (Binary64.scaled 0.3) = ⟨3, -1⟩ := by decide +kernel

end MemoryBank.Decimal
