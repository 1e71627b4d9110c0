import IndexShards.Double.Basic

/-!
# The decimal text of a double

A double is written with the fewest digits that read back as the same double, and of the decimals
with so few digits the one nearest to it.  The digits are found in exact arithmetic: a finite
double is itself a decimal, of many digits, and every shorter candidate is one of the two decimals
beside a cut through them.

## What is here

* `exactDecimal` — the whole number and the power of ten that a magnitude is.
* `shortestDecimal` — the digits to be written.
* `Double.text` — the text; numbers from one hundred-thousandth up to sixteen digits before the
  point are written without an exponent, and there is always a point or an exponent.
-/

set_option autoImplicit false

namespace IndexShards
namespace Double

/-- The magnitude is the first number times the second power of ten. -/
def exactDecimal (magnitude : Nat) : Nat × Int :=
  let field := magnitude / exponentBit
  let fraction := magnitude % exponentBit
  let significand := if field = 0 then fraction else exponentBit + fraction
  let q : Int := ((max field 1 : Nat) : Int) - 1075
  if 0 ≤ q then (significand * Nat.pow 2 q.toNat, 0) else (significand * Nat.pow 5 (-q).toNat, q)

/-- The decimal reads back as the magnitude. -/
def readsBack (magnitude coefficient : Nat) (exponent : Int) : Bool :=
  ofDecimal? false coefficient exponent == some (ofMagnitude false magnitude)

/-- The one of the two decimals beside the cut that reads back and is nearer to the number, the even
one if both are equally near; the cut leaves `cut` digits of the coefficient out. -/
def beside? (magnitude coefficient : Nat) (exponent : Int) (cut : Nat) : Option (Nat × Int) :=
  let unit := Nat.pow 10 cut
  let below := coefficient / unit
  let nearest := roundedDiv coefficient unit
  let candidates := if nearest = below then [below, below + 1] else [below + 1, below]
  (candidates.find? fun c => readsBack magnitude c (exponent + cut)).map (·, exponent + cut)

/-- The decimal with the fewest digits that reads back as the magnitude, which is not zero. -/
def shortestDecimal (magnitude : Nat) : Nat × Int :=
  let (coefficient, exponent) := exactDecimal magnitude
  let digits := (Nat.toDigits 10 coefficient).length
  ((List.range digits).reverse.findSome? (beside? magnitude coefficient exponent)).getD
    (coefficient, exponent)

/-- The digits without the zeros at their end, and the power of ten that these stood for. -/
def withoutZeros (digits : List Char) (exponent : Int) : List Char × Int :=
  let zeros := (digits.reverse.takeWhile (· == '0')).length
  (digits.take (digits.length - zeros), exponent + zeros)

/-- The text of digits, of which the last stands for the power of ten `exponent`. -/
def layout (digits : List Char) (exponent : Int) : List Char :=
  let point : Int := digits.length + exponent
  if 0 ≤ exponent ∧ point ≤ 16 then
    digits ++ List.replicate exponent.toNat '0' ++ ['.', '0']
  else if 0 < point ∧ point ≤ 16 then
    digits.take point.toNat ++ '.' :: digits.drop point.toNat
  else if -5 < point ∧ point ≤ 0 then
    ['0', '.'] ++ List.replicate (-point).toNat '0' ++ digits
  else
    digits.take 1 ++ (if digits.length = 1 then [] else '.' :: digits.drop 1) ++
      'e' :: (toString (point - 1)).toList

/-- The text of a finite double. -/
def text (d : Double) : String :=
  let sign := if d.isNegative then ['-'] else []
  if d.magnitude = 0 then String.ofList (sign ++ ['0', '.', '0'])
  else
    let (coefficient, exponent) := shortestDecimal d.magnitude
    let (digits, exponent) := withoutZeros (Nat.toDigits 10 coefficient) exponent
    String.ofList (sign ++ layout digits exponent)

end Double
end IndexShards
