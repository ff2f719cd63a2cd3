/-!
# Rounding a quotient

One rounding rule serves every number that is written or read: the nearest natural number, a half
going to the even neighbour. `roundQuotient` works on exact quotients.
-/

namespace RingDiagram.Decimal

/-- The natural number nearest to `num / den`, a half going to the even neighbour. -/
def roundQuotient (num den : Nat) : Nat :=
  let whole := num / den
  let twice := 2 * (num % den)
  if twice < den then whole else if den < twice then whole + 1 else whole + whole % 2

end RingDiagram.Decimal
