import RingDiagram.Decimal.Binary64

/-!
# Lengths of vectors of doubles

The length of a vector is the double nearest to the square root of an exact sum of squares. It is
estimated with doubles, after scaling by a power of two so that squares neither overflow nor
vanish; the mantissa of the estimate then gives way to a neighbour that is nearer to the root.
-/

namespace RingDiagram.Decimal

/-- The sum of the squares of two magnitudes, as a magnitude. -/
def sumOfSquares (m : Nat) (e : Int) (n : Nat) (f : Int) : Nat × Int :=
  let least := min e f
  let a := m * twoTo (e - least).toNat
  let b := n * twoTo (f - least).toNat
  (a * a + b * b, 2 * least)

/-- Of the mantissa and the two next to it, the one whose multiple of `2 ^ exponent` is nearest to
the root of a magnitude. -/
def nearestRoot (square : Nat × Int) (mantissa : Nat) (exponent : Int) : Nat :=
  -- the root is compared with the halves between mantissas, squared and times four
  let quadruple := magnitude (4 * square.1) (square.2 - 2 * exponent)
  let above := 2 * mantissa + 1
  let below := 2 * mantissa - 1
  if above * above * quadruple.2 < quadruple.1 then mantissa + 1
  else if quadruple.1 < below * below * quadruple.2 then mantissa - 1
  else mantissa

/-- An estimate of the length of a vector, off in the last place at most. -/
def estimatedLength (x y : Float) : Float :=
  let (_, exponent) := (if x.abs < y.abs then y else x).frExp
  let x := x.scaleB (-exponent)
  let y := y.scaleB (-exponent)
  (x * x + y * y).sqrt.scaleB exponent

/-- The length of the vector with the given coordinates, infinite as soon as one of them is. -/
def length (x y : Float) : Float :=
  if x.isInf || y.isInf then infinity false
  else
    let estimate := estimatedLength x y
    match Binary64.ofFloat x, Binary64.ofFloat y, Binary64.ofFloat estimate with
    | .finite _ m e, .finite _ n f, .finite _ mantissa exponent =>
      let root := magnitude (nearestRoot (sumOfSquares m e n f) mantissa exponent) exponent
      nearestFloat false root.1 root.2
    | _, _, _ => estimate

end RingDiagram.Decimal
