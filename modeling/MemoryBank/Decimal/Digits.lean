set_option autoImplicit false

/-!
Decimal digits of natural numbers.
-/

namespace MemoryBank.Decimal

def digitChar (d : Nat) : Char := Char.ofNat (0x30 + d)

def digitsOnto (n : Nat) (rest : List Char) : List Char :=
  if n < 10 then digitChar n :: rest else digitsOnto (n / 10) (digitChar (n % 10) :: rest)

def digits (n : Nat) : List Char := digitsOnto n []

def ofInt (n : Int) : List Char := if n < 0 then '-' :: digits n.natAbs else digits n.natAbs

def render (n : Int) : String := String.ofList (ofInt n)

def count (n : Nat) : Nat := if n = 0 then 0 else count (n / 10) + 1

def padded (width n : Nat) : List Char :=
  let ds := digits n
  List.replicate (width - ds.length) '0' ++ ds

def value (ds : List Char) : Nat := ds.foldl (fun n c => 10 * n + (c.toNat - 0x30)) 0

example : digits 1205 = ['1', '2', '0', '5'] := by decide +kernel
example : value (digits 1205) = 1205 := by decide +kernel

end MemoryBank.Decimal
