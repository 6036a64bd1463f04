import MemoryBank.Decimal.Digits
import MemoryBank.Number.Single

set_option autoImplicit false

/-!
Numbers of bytes for people to read: whole bytes below 1024, above that one decimal place in the
greatest unit that fits, a half going to the even neighbour.
-/

namespace MemoryBank.ByteSize

def kilobyte : Nat := 1024

def megabyte : Nat := 1024 * kilobyte

def gigabyte : Nat := 1024 * megabyte

def tenths (n d : Nat) : String :=
  let t := Single.nearestEven (10 * n) d
  Decimal.render (t / 10) ++ "." ++ Decimal.render (t % 10)

def rounded (bytes : Nat) : Nat :=
  let s := Binary64.scaled (Float.ofNat bytes)
  if s.exponent < 0 then s.mantissa / pow2 s.exponent.natAbs
  else s.mantissa * pow2 s.exponent.toNat

def render (bytes : Nat) : String :=
  let n := rounded bytes
  if n < kilobyte then Decimal.render bytes ++ " B"
  else if n < megabyte then tenths n kilobyte ++ " KB"
  else if n < gigabyte then tenths n megabyte ++ " MB"
  else tenths n gigabyte ++ " GB"

example : render 1280 = "1.2 KB" := by decide +kernel
example : render 1076 = "1.1 KB" := by decide +kernel

end MemoryBank.ByteSize
