import RingDiagram.Decimal.Binary64

/-!
# Remainders of doubles

The remainder of one double by another is computed on their exact values, so nothing is lost
however many turns an angle makes.
-/

namespace RingDiagram.Decimal

/-- The remainder of the magnitudes `m * 2 ^ e` and `n * 2 ^ f`, as a mantissa over the lesser of
the two exponents. -/
def magnitudeRemainder (m : Nat) (e : Int) (n : Nat) (f : Int) : Nat × Int :=
  let least := min e f
  ((m * twoTo (e - least).toNat) % (n * twoTo (f - least).toNat), least)

/-- The remainder that has the sign of `x` and is less than `y` in magnitude. -/
def remainder (x y : Float) : Float :=
  match Binary64.ofFloat x, Binary64.ofFloat y with
  | .finite _ _ _, .infinite _ => x
  | .finite negative m e, .finite _ n f =>
    if n = 0 then 0 / 0
    else
      let r := magnitudeRemainder m e n f
      let r := magnitude r.1 r.2
      nearestFloat negative r.1 r.2
  | _, _ => 0 / 0

/-- The remainder that is not negative. -/
def positiveRemainder (x y : Float) : Float :=
  let r := remainder x y
  if r < 0 then r + y.abs else r

end RingDiagram.Decimal
