/-!
# Binary floating-point numbers

The finite numbers of the 64-bit binary format, kept as their bits. A number here is never computed
with beyond reading its text, so every operation is exact integer arithmetic followed by one rounding
to the nearest number of the format, a tie going to the even one.
-/

namespace HotReload

/-- A 64-bit binary floating-point number by its bits: sign, exponent, fraction. -/
@[ext]
structure Binary64 where
  bits : UInt64
  deriving DecidableEq

namespace Binary64

/-- The bits of infinity, which no finite magnitude reaches. -/
def infinityBits : Nat := 0x7FF0000000000000

def isNegative (x : Binary64) : Bool :=
  Nat.pow 2 63 ≤ x.bits.toNat

def magnitude (x : Binary64) : Nat :=
  x.bits.toNat % Nat.pow 2 63

def ofMagnitude (negative : Bool) (magnitude : Nat) : Binary64 :=
  ⟨.ofNat (if negative then magnitude + Nat.pow 2 63 else magnitude)⟩

/-- The integer significand `m` and the exponent `q` of a magnitude `m · 2 ^ q`. -/
def significand (magnitude : Nat) : Nat × Int :=
  let exponent : Nat := magnitude / Nat.pow 2 52
  if exponent = 0 then (magnitude, -1074)
  else (Nat.pow 2 52 + magnitude % Nat.pow 2 52, (exponent : Int) - 1075)

/-- The quotient rounded to an integer, a tie going to the even one. -/
def roundDiv (num den : Nat) : Nat :=
  let quotient := num / den
  let twice := 2 * (num % den)
  if twice < den ∨ (twice = den ∧ quotient % 2 = 0) then quotient else quotient + 1

/-- `num / den · 2 ^ (-shift)` as a quotient of natural numbers. -/
def scaled (num den : Nat) (shift : Int) : Nat × Nat :=
  if 0 ≤ shift then (num, den * Nat.pow 2 shift.toNat)
  else (num * Nat.pow 2 (-shift).toNat, den)

/-- The magnitude nearest to a quotient; none if that is infinite. -/
def nearest? (num den : Nat) : Option Nat :=
  if num = 0 then some 0
  else
    let estimate : Int := Nat.log2 num - Nat.log2 den - 52
    let (n, d) := scaled num den estimate
    let exponent := max (-1074) (if n / d < Nat.pow 2 52 then estimate - 1 else estimate)
    let (n, d) := scaled num den exponent
    let magnitude := (exponent + 1074).toNat * Nat.pow 2 52 + roundDiv n d
    if magnitude < infinityBits then some magnitude else none

/-- A magnitude as a quotient of natural numbers. -/
def ratio (magnitude : Nat) : Nat × Nat :=
  let (m, q) := significand magnitude
  if 0 ≤ q then (m * Nat.pow 2 q.toNat, 1) else (m, Nat.pow 2 (-q).toNat)

/-- The rounded product of two magnitudes; none if that is infinite. -/
def mul? (x y : Nat) : Option Nat :=
  let (n, d) := ratio x
  let (n', d') := ratio y
  nearest? (n * n') (d * d')

/-- The rounded quotient of two magnitudes, the second not zero; none if that is infinite. -/
def div? (x y : Nat) : Option Nat :=
  let (n, d) := ratio x
  let (n', d') := ratio y
  nearest? (n * d') (d * n')

/-- The magnitude nearest to `digits · 10 ^ exponent`; none if that is infinite. Exponents far out of
the range of the format are answered without computing their power. -/
def ofDecimal? (digits : Nat) (exponent : Int) : Option Nat :=
  let length : Int := (Nat.toDigits 10 digits).length
  if digits = 0 ∨ length + exponent < -330 then some 0
  else if 330 < length + exponent then none
  else if 0 ≤ exponent then nearest? (digits * Nat.pow 10 exponent.toNat) 1
  else nearest? digits (Nat.pow 10 (-exponent).toNat)

end Binary64

end HotReload
