import MemoryBank.Decimal.Digits

set_option autoImplicit false

/-!
Ids for new documents. They sort in the order in which they are made.
-/

namespace MemoryBank

def identifier (n : Nat) : String :=
  String.ofList ("01900000-0000-7000-8000-".toList ++ Decimal.padded 12 n)

end MemoryBank
