import GuestHost.Decimal.Binary

/-!
# Cube roots

The cube root of a binary number, rounded to the nearest number of its format. The root of a natural
number is found bit by bit; the root of a number is that of a multiple with so many more bits that
rounding it needs to know only whether it is exact.
-/

namespace GuestHost.Decimal

/-- Adds to a root the bits below bit `k` that keep its cube at most `n`. -/
def rootBits (n : Nat) : (k : Nat) → (root : Nat) → Nat
  | 0, root => root
  | k + 1, root =>
    let next := root + Nat.pow 2 k
    rootBits n k (if Nat.pow next 3 ≤ n then next else root)

/-- The greatest natural number whose cube is at most `n`. -/
def natCubeRoot (n : Nat) : Nat := rootBits n (n.log2 / 3 + 1) 0

/-- The cube root of `mantissa * 2 ^ exponent`. Below its last bit an inexact root is known to lie
strictly between two natural numbers; half a bit stands for that. -/
def Format.cubeRootOf (f : Format) (negative : Bool) (mantissa : Nat) (exponent : Int) : Nat :=
  let third := exponent / 3
  let n := mantissa * Nat.pow 2 ((exponent - 3 * third).toNat + 3 * (f.fractionBits + 8))
  let root := natCubeRoot n
  let twice := 2 * root + (if Nat.pow root 3 = n then 0 else 1)
  f.ofScaled negative twice (third - (f.fractionBits + 8 : Nat) - 1)

/-- The pattern of the cube root of a pattern. -/
def Format.cubeRoot (f : Format) (bits : Nat) : Nat :=
  match f.decode bits with
  | .finite negative mantissa exponent => f.cubeRootOf negative mantissa exponent
  | _ => bits

end GuestHost.Decimal
