/-!
# Powers

A file that counts in powers declares the power of this module a local instance. The sign `^` then
means one and the same function there, whether or not a power of monoids is in scope as well.
-/

namespace ControlSchema.Number

/-- The power of numbers of the core library. -/
abbrev corePow {α : Type} [NatPow α] : Pow α Nat := instPowNat

end ControlSchema.Number
