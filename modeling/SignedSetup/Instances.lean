/-!
# Instances for numbers

Powers and zero of numbers are those of the core language. Other instances of the same classes may
be in scope where the library is used; the ones here come first.
-/

namespace SignedSetup

@[default_instance 20000]
instance (priority := 2000) instPowNatNat : Pow Nat Nat := instPowNat

@[default_instance 20000]
instance (priority := 2000) instPowIntNat : Pow Int Nat := instPowNat

instance (priority := 2000) instZeroNat : Zero Nat := Zero.ofOfNat0

end SignedSetup
