/-! # Decimal text

Floating-point numbers written with a fixed number of decimals. A finite binary64 number is a mantissa times a
power of two; its exact value is rounded to the nearest multiple of the last decimal place, and to the even one
of two that are equally near. The sign is written whenever the number has one, so a negative number that rounds
to zero is still negative in writing. -/

namespace TurtleGraphics.Decimal

/-- The exact value that binary64 bits stand for. -/
inductive Binary64 where
  /-- `mantissa * 2 ^ exponent`, negated if `negative` -/
  | finite (negative : Bool) (mantissa : Nat) (exponent : Int)
  | infinite (negative : Bool)
  | nan
deriving Repr, DecidableEq

/-- The value of 64 bits: a sign bit, eleven bits of exponent and 52 bits of fraction. -/
def Binary64.ofBits (bits : UInt64) : Binary64 :=
  let negative : Bool := Nat.pow 2 63 ≤ bits.toNat
  let exponent : Nat := bits.toNat / Nat.pow 2 52 % Nat.pow 2 11
  let fraction : Nat := bits.toNat % Nat.pow 2 52
  if exponent = 2047 then if fraction = 0 then infinite negative else nan
  else if exponent = 0 then finite negative fraction (-1074)
  else finite negative (Nat.pow 2 52 + fraction) (exponent - 1075)

/-- The natural number nearest to `num / den`, the even one of two that are equally near. -/
def roundDiv (num den : Nat) : Nat :=
  let quotient := num / den
  let remainder := num % den
  if 2 * remainder < den then quotient
  else if den < 2 * remainder then quotient + 1
  else quotient + quotient % 2

/-- The natural number nearest to `n * 2 ^ exponent`, the even one of two that are equally near. -/
def roundScaled (n : Nat) (exponent : Int) : Nat :=
  if exponent < 0 then roundDiv n (Nat.pow 2 exponent.natAbs) else n * Nat.pow 2 exponent.natAbs

/-- The digits of `n / 10 ^ places`, with a point before the last `places` digits. -/
def pointed (places n : Nat) : List Char :=
  Nat.toDigits 10 (n / Nat.pow 10 places) ++ '.' :: (Nat.toDigits 10 (n % Nat.pow 10 places)).leftpad places '0'

/-- A value with a number of decimals. -/
def Binary64.fixed (places : Nat) : Binary64 → String
  | finite negative mantissa exponent =>
    let digits := pointed places (roundScaled (mantissa * Nat.pow 10 places) exponent)
    String.ofList (if negative then '-' :: digits else digits)
  | infinite negative => if negative then "-inf" else "inf"
  | nan => "NaN"

/-- A number with a number of decimals. -/
def fixed (places : Nat) (x : Float) : String :=
  (Binary64.ofBits x.toBits).fixed places

end TurtleGraphics.Decimal
