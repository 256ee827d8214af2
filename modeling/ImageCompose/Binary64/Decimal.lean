import ImageCompose.Binary64.Basic

/-!
# Decimal digits of floating-point numbers

`Binary64.ofDecimal?` reads digits that a power of ten scales. It rounds the digits first and then,
once for each power it multiplies or divides by, what comes of them, so that the number it gives may
be a neighbour of the nearest one. `Binary64.shortest` gives the fewest digits whose nearest number
is the one at hand, and of several such decimals the nearest.
-/

namespace ImageCompose.Binary64

/-! ## Reading -/

/-- The number nearest to a power of ten. -/
def powerOfTen? (exponent : Nat) : Option Binary64 :=
  nearest? false (Nat.pow 10 exponent) 1 0

/-- The exponent of the greatest power of ten in range. -/
def mostPower : Nat := 308

/-- A number times a power of ten; nothing if it is out of range. A power that is too small to
divide by at once is divided by in steps, until it is small enough or nothing is left. -/
def scale? (x : Binary64) (exponent : Int) : Option Binary64 :=
  if exponent.natAbs ≤ mostPower then
    (powerOfTen? exponent.natAbs).bind fun power =>
      if 0 ≤ exponent then x.mul? power else x.div? power
  else if x.isZero then some x
  else if 0 ≤ exponent then none
  else
    ((powerOfTen? mostPower).bind x.div?).bind fun quotient =>
      quotient.scale? (exponent + mostPower)
termination_by exponent.natAbs
decreasing_by simp only [mostPower] at *; omega

/-- The number that digits times a power of ten are read as; nothing if it is out of range. -/
def ofDecimal? (negative : Bool) (digits : Nat) (exponent : Int) : Option Binary64 :=
  (nearest? negative digits 1 0).bind (·.scale? exponent)

/-! ## Writing -/

/-- Ten to a power, as a quotient. -/
def powerOfTen (exponent : Int) : Nat × Nat :=
  (Nat.pow 10 exponent.toNat, Nat.pow 10 (-exponent).toNat)

/-- The least power of ten above a number other than zero. It is estimated from the bits of the
number; the estimate is at most one too large. -/
def magnitude (x : Binary64) : Int :=
  let bits : Int := Nat.log2 x.significand + 1 + x.exponent
  let most := bits * 30103 / 100000 + 1
  let (up, down) := powerOfTwo x.exponent
  let (tens, tenths) := powerOfTen (most - 1)
  if x.significand * up * tenths < tens * down then most - 1 else most

/-- The multiple of a power of ten that has a number as the nearest one. Only the two multiples
around the number need to be tried; if both have it, the nearer one is taken. What has a number as
the nearest one lies between the middles to its two neighbours, and the middles themselves belong to
it if its significand is even. Under the least full significand the neighbour is half as far away,
so all is counted in quarters of a unit of the significand. -/
def multiple? (x : Binary64) (exponent : Int) : Option Nat :=
  let (up, down) := powerOfTwo (x.exponent - 2)
  let (tens, tenths) := powerOfTen exponent
  let unit := up * tenths
  let grid := down * tens
  let value := 4 * x.significand * unit
  let narrow := x.significand = leastFull ∧ leastExponent < x.exponent
  let low := (4 * x.significand - if narrow then 1 else 2) * unit
  let high := (4 * x.significand + 2) * unit
  let even := x.significand % 2 = 0
  let readsBack (n : Nat) : Bool :=
    (low < n * grid && n * grid < high) || (even && (n * grid = low || n * grid = high))
  let below := value / grid
  let near := roundDiv value grid
  let far := if near = below then below + 1 else below
  if readsBack near then some near else if readsBack far then some far else none

/-- Digits without the zeros at their end, which the power of ten takes over. -/
def withoutZeros (digits : Nat) (exponent : Int) : Nat × Int :=
  if digits ≠ 0 ∧ digits % 10 = 0 then withoutZeros (digits / 10) (exponent + 1)
  else (digits, exponent)
termination_by digits

/-- As many digits as it takes to tell every two numbers apart. -/
def enoughDigits : Nat := 17

/-- The fewest digits that have a number as the nearest one, and the power of ten that scales them.
They are looked for among the multiples of smaller and smaller powers of ten; should none of these
fit, all digits are given. -/
def shortest (x : Binary64) : Nat × Int :=
  if x.isZero then (0, 0)
  else
    let exponents := (List.range enoughDigits).map fun n => x.magnitude - 1 - Int.ofNat n
    match exponents.findSome? fun e => (x.multiple? e).map (·, e) with
    | some (digits, exponent) => withoutZeros digits exponent
    | none =>
      let (up, _) := powerOfTwo x.exponent
      withoutZeros (x.significand * up * Nat.pow 5 (-x.exponent).toNat) (min 0 x.exponent)

end ImageCompose.Binary64
