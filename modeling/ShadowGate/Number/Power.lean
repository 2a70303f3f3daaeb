/-!
# Powers and word sizes

Powers of two and ten, and the ends of the ranges of 64-bit numbers.
-/

namespace ShadowGate.Number

/-- Two to a power. -/
def twoTo (n : Nat) : Nat := Nat.pow 2 n

/-- Ten to a power. -/
def tenTo (n : Nat) : Nat := Nat.pow 10 n

/-- One above the largest number of 64 bits. -/
def nat64Bound : Nat := 18446744073709551616

/-- The least signed number of 64 bits. -/
def int64Min : Int := -9223372036854775808

/-- The largest signed number of 64 bits. -/
def int64Max : Int := 9223372036854775807

end ShadowGate.Number
