import HotReload.Number.Binary64

/-!
# Shortest decimals

The decimal that stands for a binary number is the shortest one that rounds to it, and of several
the nearest. For each number of digits, only the two neighbours of the value on that decimal grid
need to be tried.
-/

namespace HotReload.Binary64

/-- The numbers that round to one value: those between `low` and `high`, all over one denominator,
the ends included if `closed`. -/
structure Interval where
  value : Nat
  low : Nat
  high : Nat
  denominator : Nat
  closed : Bool

/-- The interval of a magnitude. Below a power of two the neighbour is twice as near as above it. -/
def interval (magnitude : Nat) : Interval :=
  let (m, q) := significand magnitude
  let below := if m = Nat.pow 2 52 ∧ q ≠ -1074 then 1 else 2
  let (factor, denominator) :=
    if 2 ≤ q then (Nat.pow 2 (q - 2).toNat, 1) else (1, Nat.pow 2 (2 - q).toNat)
  { value := 4 * m * factor
    low := (4 * m - below) * factor
    high := (4 * m + 2) * factor
    denominator
    closed := m % 2 = 0 }

def Interval.holds (i : Interval) (num den : Nat) : Bool :=
  if i.closed then
    i.low * den ≤ num * i.denominator && num * i.denominator ≤ i.high * den
  else
    i.low * den < num * i.denominator && num * i.denominator < i.high * den

/-- The exponent of the leading decimal digit of `num / den`, for `num` not zero. -/
def leadingExponent (num den : Nat) : Int :=
  if den ≤ num then ((Nat.toDigits 10 (num / den)).length : Int) - 1
  else
    -- The quotient of `den` by `num`, rounded up, has one digit more than the exponent says.
    -(((Nat.toDigits 10 ((den - 1) / num)).length : Int))

/-- The nearest multiple of `10 ^ unit` in the interval, as a multiplier, if a neighbour of the value
on that grid lies in it. -/
def Interval.onGrid? (i : Interval) (unit : Int) : Option Nat :=
  -- The grid step is `up / down`.
  let (up, down) :=
    if 0 ≤ unit then (Nat.pow 10 unit.toNat, 1) else (1, Nat.pow 10 (-unit).toNat)
  let num := i.value * down
  let den := i.denominator * up
  let floor := num / den
  let rest := 2 * (num % den)
  let lower := i.holds (floor * up) down
  let upper := i.holds ((floor + 1) * up) down
  if lower && upper then
    some (if rest < den ∨ (rest = den ∧ floor % 2 = 0) then floor else floor + 1)
  else if lower then some floor
  else if upper then some (floor + 1)
  else none

/-- Drops the zeros at the end of a number, counting them into the exponent. -/
def dropZeros : (fuel : Nat) → Nat → Int → Nat × Int
  | 0, digits, exponent => (digits, exponent)
  | fuel + 1, digits, exponent =>
    if digits % 10 = 0 ∧ digits ≠ 0 then dropZeros fuel (digits / 10) (exponent + 1)
    else (digits, exponent)

/-- The shortest decimal `digits · 10 ^ exponent` that rounds to a magnitude. -/
def shortest (magnitude : Nat) : Nat × Int :=
  if magnitude = 0 then (0, 0)
  else
    let i := interval magnitude
    let top := leadingExponent i.value i.denominator
    let found := (List.range 17).findSome? fun (n : Nat) =>
      (i.onGrid? (top - n)).map fun digits => dropZeros 18 digits (top - n)
    found.getD (0, 0)

end HotReload.Binary64
