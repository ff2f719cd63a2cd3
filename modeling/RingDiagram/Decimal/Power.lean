/-!
# Powers of two and ten

The scales of binary and decimal numbers.
-/

namespace RingDiagram.Decimal

/-- Two, `n` times multiplied with itself. -/
def twoTo (n : Nat) : Nat :=
  Nat.pow 2 n

/-- Ten, `n` times multiplied with itself. -/
def tenTo (n : Nat) : Nat :=
  Nat.pow 10 n

end RingDiagram.Decimal
