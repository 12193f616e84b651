/-!
# Integers of 64 bits

The ranges of signed and of unsigned integers of 64 bits, and the powers from
which binary and decimal numbers are built.
-/

namespace ServiceLoom

namespace Word64

/-- The least signed integer, `-2 ^ 63`. -/
abbrev least : Int := -9223372036854775808

/-- The first integer above the signed ones, `2 ^ 63`. -/
abbrev signedBound : Int := 9223372036854775808

/-- The first integer above the unsigned ones, `2 ^ 64`. -/
abbrev bound : Nat := 18446744073709551616

/-- The unsigned integer after another. After the last one comes zero. -/
def succ (n : Nat) : Nat := (n + 1) % bound

end Word64

namespace Decimal

/-- The power `2 ^ n`. -/
def twoTo (n : Nat) : Nat := Nat.pow 2 n

/-- The power `10 ^ n`. -/
def tenTo (n : Nat) : Nat := Nat.pow 10 n

end Decimal

end ServiceLoom
