import IndexShards.Double.Basic

/-!
# Numbers in JSON

A number is kept as it is written, for it depends on the reader what it stands for: a reader of
integers takes digits only, and a reader of doubles takes the nearest double.  The literal `-0` is a
double and no integer, because no integer has a sign of its own at zero.

Numbers are those of the JSON grammar, as `serde_json` reads them.  That library documents the
nearest double for its feature `float_roundtrip`, and a best effort without it, which may miss the
last bit and may refuse a decimal next to the largest double.  Here the nearest double is taken for
every decimal, and a decimal is refused only if there is none.

## What is here

* `NumberText` — the parts of a number; `NumberText.ofChars?` reads them and so decides what a
  number is.
* `NumberText.int?`, `NumberText.double?` — what a number stands for.
-/

set_option autoImplicit false

namespace IndexShards
namespace Json

/-- A number in its written parts. -/
structure NumberText where
  negative : Bool
  /-- The digits before the point. -/
  whole : List Char
  /-- The digits after the point, if there is one. -/
  fraction? : Option (List Char)
  /-- The exponent, if there is one. -/
  exponent? : Option Int
deriving DecidableEq

/-- The number that digits stand for. -/
def ofDigits (ds : List Char) : Nat := ds.foldl (fun n d => 10 * n + (d.toNat - '0'.toNat)) 0

/-- One digit or more at the head, and the rest. -/
def readDigits? (cs : List Char) : Option (List Char × List Char) :=
  match cs.takeWhile Char.isDigit with
  | [] => none
  | ds => some (ds, cs.dropWhile Char.isDigit)

/-- The digits before the point, which start with a zero only if there is no other. -/
def readWhole? (cs : List Char) : Option (List Char × List Char) :=
  match readDigits? cs with
  | some (ds, rest) => if ds.head? = some '0' ∧ ds.length ≠ 1 then none else some (ds, rest)
  | none => none

/-- A point with its digits, if one is there. -/
def readFraction? : List Char → Option (Option (List Char) × List Char)
  | '.' :: cs => (readDigits? cs).map fun (ds, rest) => (some ds, rest)
  | cs => some (none, cs)

/-- The digits of an exponent after its sign. -/
def readSigned? : List Char → Option (Int × List Char)
  | '-' :: cs => (readDigits? cs).map fun (ds, rest) => (-(ofDigits ds : Int), rest)
  | '+' :: cs => (readDigits? cs).map fun (ds, rest) => ((ofDigits ds : Int), rest)
  | cs => (readDigits? cs).map fun (ds, rest) => ((ofDigits ds : Int), rest)

/-- An exponent, if one is there. -/
def readExponent? : List Char → Option (Option Int × List Char)
  | 'e' :: cs => (readSigned? cs).map fun (n, rest) => (some n, rest)
  | 'E' :: cs => (readSigned? cs).map fun (n, rest) => (some n, rest)
  | cs => some (none, cs)

/-- The number without its sign. -/
def readUnsigned? (negative : Bool) (cs : List Char) : Option NumberText := do
  let (whole, cs) ← readWhole? cs
  let (fraction?, cs) ← readFraction? cs
  let (exponent?, cs) ← readExponent? cs
  if cs = [] then some ⟨negative, whole, fraction?, exponent?⟩ else none

namespace NumberText

/-- The parts of a number, if the characters are one. -/
def ofChars? : List Char → Option NumberText
  | '-' :: cs => readUnsigned? true cs
  | cs => readUnsigned? false cs

/-- The integer, if the number has neither a point nor an exponent and is not a negative zero. -/
def int? (n : NumberText) : Option Int :=
  match n.fraction?, n.exponent? with
  | none, none =>
    let m := ofDigits n.whole
    if n.negative then (if m = 0 then none else some (-(m : Int))) else some m
  | _, _ => none

/-- The nearest double, if there is one. -/
def double? (n : NumberText) : Option Double :=
  let fraction := n.fraction?.getD []
  Double.ofDecimal? n.negative (ofDigits (n.whole ++ fraction))
    (n.exponent?.getD 0 - fraction.length)

end NumberText
end Json
end IndexShards
