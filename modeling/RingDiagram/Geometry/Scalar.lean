import RingDiagram.Decimal.Length

/-!
# Numbers for drawing

Geometry is written over any type with arithmetic, an order and a test of equality, together with
the few functions of `Scalar`. Doubles are the numbers that drawings are made with; an ordered
field with exact lengths is what the formulas are reasoned about in.
-/

namespace RingDiagram

/-- What drawing needs of its numbers beyond arithmetic and order. -/
class Scalar (α : Type) where
  /-- Half a turn. -/
  pi : α
  /-- The length of the vector with the given coordinates. -/
  length : α → α → α
  sin : α → α
  cos : α → α
  /-- The angle of the vector with the given coordinates, as seen from the `x` axis. -/
  angle : α → α → α
  /-- Neither infinite nor undefined. -/
  isFinite : α → Bool

namespace Scalar

variable {α : Type} [NatCast α]

/-- A natural number as a scalar. -/
abbrev nat (n : Nat) : α := Nat.cast n

/-- A whole turn. -/
def tau [Mul α] [Scalar α] : α :=
  nat 2 * pi

/-- Vectors no longer than this have no direction. -/
def epsilon [Div α] : α :=
  nat 1 / nat 0x10000000000000

/-- Differences below this are not told from zero. -/
def tolerance [Div α] : α :=
  nat 1 / nat 1000000000

/-- The number without its sign. -/
def magnitude [Neg α] [LT α] [DecidableLT α] (a : α) : α :=
  if a < nat 0 then -a else a

/-- The lesser of two numbers; an undefined one does not count. -/
def lesser [LT α] [DecidableLT α] [BEq α] (a b : α) : α :=
  if b < a then b else if a == a then a else b

/-- The greater of two numbers; an undefined one does not count. -/
def greater [LT α] [DecidableLT α] [BEq α] (a b : α) : α :=
  if a < b then b else if a == a then a else b

end Scalar

/-- Natural numbers as doubles. -/
instance Scalar.floatOfNat : NatCast Float := ⟨Float.ofNat⟩

/-- Doubles are scalars. -/
instance Scalar.float : Scalar Float where
  pi := .ofBits 0x400921FB54442D18
  length := Decimal.length
  sin := Float.sin
  cos := Float.cos
  angle x y := Float.atan2 y x
  isFinite := Float.isFinite

end RingDiagram
