/-!
# Floating-point numbers of 64 bits

A `Binary64` is a finite floating-point number: a sign, and a significand of 53 bits that a power of
two scales, so that each value but zero has one form and zero has two. `nearest?` rounds a quotient
to such a number, to the even significand of two that are equally near. Products and quotients are
the exact ones, rounded.
-/

namespace ImageCompose

namespace Binary64

/-- The least significand of 53 bits. -/
def leastFull : Nat := 4503599627370496

/-- The least power of two. -/
def leastExponent : Int := -1074

/-- The greatest power of two. -/
def mostExponent : Int := 971

/-- Whether a significand and a power of two are the form of a value: the significand has 53 bits,
and fewer only where the power is the least. -/
def IsForm (significand : Nat) (exponent : Int) : Prop :=
  significand < 2 * leastFull ∧ leastExponent ≤ exponent ∧ exponent ≤ mostExponent ∧
    (leastFull ≤ significand ∨ exponent = leastExponent)

instance (significand : Nat) (exponent : Int) : Decidable (IsForm significand exponent) := by
  unfold IsForm; infer_instance

end Binary64

/-- A finite floating-point number: `significand` times two to the `exponent`. -/
structure Binary64 where
  /-- Whether a minus sign stands in front. -/
  negative : Bool
  significand : Nat
  exponent : Int
  isForm : Binary64.IsForm significand exponent
  deriving DecidableEq

namespace Binary64

/-- A quotient rounded to a whole number, to the even one of two that are equally near. -/
def roundDiv (num den : Nat) : Nat :=
  let quotient := num / den
  let double := 2 * (num % den)
  if double < den ∨ (double = den ∧ quotient % 2 = 0) then quotient else quotient + 1

/-- Two to a power, as a quotient. -/
def powerOfTwo (exponent : Int) : Nat × Nat :=
  (Nat.pow 2 exponent.toNat, Nat.pow 2 (-exponent).toNat)

/-- The number with a significand and a power of two, if they are a form. -/
def ofForm? (negative : Bool) (significand : Nat) (exponent : Int) : Option Binary64 :=
  if h : IsForm significand exponent then some ⟨negative, significand, exponent, h⟩ else none

/-- The power of two with which a positive quotient has a significand of 53 bits, but at least the
least one. The lengths of numerator and denominator in bits leave two powers to choose from. -/
def exponentOf (num den : Nat) : Int :=
  let most : Int := (Nat.log2 num : Int) - Nat.log2 den - 52
  let (up, down) := powerOfTwo most
  max leastExponent (if num * down < leastFull * (den * up) then most - 1 else most)

/-- The number nearest to a quotient times two to a power; nothing if it is out of range or the
denominator is zero. -/
def nearest? (negative : Bool) (num den : Nat) (exponent : Int) : Option Binary64 :=
  let (up, down) := powerOfTwo exponent
  let num := num * up
  let den := den * down
  if den = 0 then none
  else if num = 0 then ofForm? negative 0 leastExponent
  else
    let exponent := exponentOf num den
    let (up, down) := powerOfTwo exponent
    let significand := roundDiv (num * down) (den * up)
    if significand = 2 * leastFull then ofForm? negative leastFull (exponent + 1)
    else ofForm? negative significand exponent

/-- The number nearest to a product. -/
def mul? (x y : Binary64) : Option Binary64 :=
  nearest? (x.negative != y.negative) (x.significand * y.significand) 1 (x.exponent + y.exponent)

/-- The number nearest to a quotient. -/
def div? (x y : Binary64) : Option Binary64 :=
  nearest? (x.negative != y.negative) x.significand y.significand (x.exponent - y.exponent)

/-- Whether a number is zero, of either sign. -/
def isZero (x : Binary64) : Bool := x.significand == 0

end Binary64

end ImageCompose
