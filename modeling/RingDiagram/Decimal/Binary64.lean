import RingDiagram.Decimal.Power
import RingDiagram.Decimal.Rounding

/-!
# Binary floating-point numbers as exact values

A double is decoded into its sign and a magnitude `mantissa * 2 ^ exponent` of integers, so that
printing and reading reason about exact numbers. In the other direction `nearestFloat` gives the
double nearest to an exact quotient, a half going to the even mantissa.
-/

namespace RingDiagram.Decimal

/-- What a double stands for. -/
inductive Binary64 where
  | nan
  | infinite (negative : Bool)
  /-- The number of magnitude `mantissa * 2 ^ exponent`. -/
  | finite (negative : Bool) (mantissa : Nat) (exponent : Int)
  deriving DecidableEq, Repr, Inhabited

/-- The mantissas of normal doubles lie between this power of two and the next. -/
def leadingMantissa : Nat := twoTo 52

/-- The bit that tells a negative double. -/
def signBit : Nat := twoTo 63

/-- The exponent of the subnormal doubles, the least there is. -/
def leastExponent : Int := -1074

/-- The greatest exponent of a finite double. -/
def greatestExponent : Int := 971

/-- The sign, mantissa and exponent that the bits of a double encode. -/
def Binary64.ofBits (bits : Nat) : Binary64 :=
  let negative := bits / signBit % 2 == 1
  let biased : Nat := bits / leadingMantissa % twoTo 11
  let fraction := bits % leadingMantissa
  if biased = 2047 then
    if fraction = 0 then .infinite negative else .nan
  else if biased = 0 then .finite negative fraction leastExponent
  else .finite negative (leadingMantissa + fraction) ((biased : Int) - 1075)

/-- What the double `x` stands for. -/
def Binary64.ofFloat (x : Float) : Binary64 :=
  .ofBits x.toBits.toNat

/-- The power `2 ^ exponent` as a quotient of natural numbers. -/
def powerOfTwo (exponent : Int) : Nat × Nat :=
  (twoTo exponent.toNat, twoTo (-exponent).toNat)

/-- The magnitude `mantissa * 2 ^ exponent` as a quotient of natural numbers. -/
def magnitude (mantissa : Nat) (exponent : Int) : Nat × Nat :=
  let power := powerOfTwo exponent
  (mantissa * power.1, power.2)

/-- The double with the given sign and the magnitude `mantissa * 2 ^ exponent`, for a mantissa
below twice `leadingMantissa` that is below it only at the least exponent. -/
def floatOfParts (negative : Bool) (mantissa : Nat) (exponent : Int) : Float :=
  let sign := if negative then signBit else 0
  let biased := if mantissa < leadingMantissa then 0 else (exponent + 1075).toNat
  .ofBits (sign + biased * leadingMantissa + mantissa % leadingMantissa).toUInt64

/-- The infinity of the given sign. -/
def infinity (negative : Bool) : Float :=
  .ofBits ((if negative then signBit else 0) + 2047 * leadingMantissa).toUInt64

/-- The exponent at which a positive quotient has a mantissa of full length. -/
def exponentOf (num den : Nat) : Int :=
  let guess : Int := (num.log2 : Int) - den.log2 - 53
  -- the logarithms are rounded down, so the guess is right or one too low
  let power := powerOfTwo guess
  if num * power.2 < 2 * leadingMantissa * (den * power.1) then guess else guess + 1

/-- The double nearest to `num / den` with the given sign, a half going to the even mantissa, and
an infinity past the greatest double. -/
def nearestFloat (negative : Bool) (num den : Nat) : Float :=
  if num = 0 then floatOfParts negative 0 leastExponent
  else
    let exponent := max leastExponent (exponentOf num den)
    let power := powerOfTwo exponent
    let rounded := roundQuotient (num * power.2) (den * power.1)
    -- rounding up may reach the next power of two, which is one exponent higher
    let carried := rounded = 2 * leadingMantissa
    let mantissa := if carried then leadingMantissa else rounded
    let exponent := if carried then exponent + 1 else exponent
    if greatestExponent < exponent then infinity negative
    else floatOfParts negative mantissa exponent

end RingDiagram.Decimal
