/-!
# Double precision numbers

A double is its sixty-four bits: a sign, eleven bits of exponent and fifty-two of fraction, as IEEE
754 lays them out.  Numbers are compared as that standard says, so no number equals "not a number",
and the two zeros are equal although their bits differ.

A decimal is read as the nearest double, a tie going to the one whose last bit is zero.  This is
computed exactly, with whole numbers: `Double.ofQuotient?` divides and rounds once.

## What is here

* `Double` — the bits; `Double.agrees` is equality of the numbers.
* `roundedDiv` — a quotient rounded to the nearest whole number, a tie to the even one.
* `Double.ofQuotient?`, `Double.ofDecimal?` — the nearest double to a quotient and to a decimal;
  none if it lies beyond the largest one.
-/

set_option autoImplicit false

namespace IndexShards

/-- A double precision number. -/
structure Double where
  bits : UInt64
deriving DecidableEq

namespace Double

/-! ## The numbers behind the bits -/

/-- The bits of infinity, and the least magnitude that is no finite number. -/
def infinity : Nat := 0x7FF0000000000000

/-- The bit of the sign, above all magnitudes. -/
def signBit : Nat := 0x8000000000000000

/-- The lowest bit of the exponent, above all fractions. -/
def exponentBit : Nat := 0x10000000000000

/-- The bits without the sign. -/
def magnitude (d : Double) : Nat := d.bits.toNat % signBit

/-- The sign is a minus. -/
def isNegative (d : Double) : Bool := decide (signBit ≤ d.bits.toNat)

/-- Not a number. -/
def isNaN (d : Double) : Bool := decide (infinity < d.magnitude)

/-- Neither infinite nor "not a number". -/
def isFinite (d : Double) : Bool := decide (d.magnitude < infinity)

/-- The two doubles are the same number. -/
def agrees (a b : Double) : Bool :=
  !a.isNaN && !b.isNaN && (a == b || (a.magnitude == 0 && b.magnitude == 0))

/-- The double with this sign and magnitude. -/
def ofMagnitude (negative : Bool) (magnitude : Nat) : Double :=
  ⟨(if negative then signBit + magnitude else magnitude).toUInt64⟩

/-! ## Rounding -/

/-- The whole number nearest to the quotient; of two that are equally near, the even one. -/
def roundedDiv (num den : Nat) : Nat :=
  let floor := num / den
  let twice := 2 * (num % den)
  if den < twice ∨ (twice = den ∧ floor % 2 = 1) then floor + 1 else floor

/-- The quotient `num / (den * 2 ^ q)`, as a numerator and a denominator. -/
def scaled (num den : Nat) (q : Int) : Nat × Nat :=
  if 0 ≤ q then (num, den * Nat.pow 2 q.toNat) else (num * Nat.pow 2 (-q).toNat, den)

/-- The exponent of the last bit of a double near the quotient: the one that leaves fifty-three
bits before it, but never less than that of the smallest double. -/
def lastBit (num den : Nat) : Int :=
  let q : Int := max (-1074) (num.log2 - den.log2 - 53)
  let (n, d) := scaled num den q
  if 2 * exponentBit ≤ n / d then q + 1 else q

/-- The magnitude of the double nearest to a quotient; `infinity` or more if there is none. -/
def nearest (num den : Nat) : Nat :=
  let q := lastBit num den
  let (n, d) := scaled num den q
  (q + 1074).toNat * exponentBit + roundedDiv n d

/-- The double nearest to a quotient of positive numbers, with a sign. -/
def ofQuotient? (negative : Bool) (num den : Nat) : Option Double :=
  let m := nearest num den
  if m < infinity then some (ofMagnitude negative m) else none

/-- The double nearest to `coefficient * 10 ^ exponent`, with a sign.  Decimals that lie far beyond
the largest double or far below the smallest one are told from the lengths of their parts alone. -/
def ofDecimal? (negative : Bool) (coefficient : Nat) (exponent : Int) : Option Double :=
  if coefficient = 0 then some (ofMagnitude negative 0)
  else if 400 < exponent then none
  else if (coefficient.log2 : Int) + 1 + exponent < -400 then some (ofMagnitude negative 0)
  else if 0 ≤ exponent then ofQuotient? negative (coefficient * Nat.pow 10 exponent.toNat) 1
  else ofQuotient? negative coefficient (Nat.pow 10 (-exponent).toNat)

example : ofDecimal? false 1 (-1) = some ⟨0x3FB999999999999A⟩ := by decide +kernel
example : ofDecimal? false 5 (-324) = some ⟨1⟩ := by decide +kernel
example : ofDecimal? false 17976931348623157 292 = some ⟨0x7FEFFFFFFFFFFFFF⟩ := by decide +kernel
example : ofDecimal? true 1 400 = none := by decide +kernel

end Double
end IndexShards
