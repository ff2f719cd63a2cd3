import RingDiagram.Decimal.Binary64

/-!
# Decimals of a fixed number of places

The text of a number with a fixed number of decimal places, rounded from its exact value, a half
going to the even neighbour. There is never an exponent, and a negative number that rounds to
zero keeps its sign.
-/

namespace RingDiagram.Decimal

/-- The decimal digits of a natural number. -/
def numeral (n : Nat) : List Char :=
  Nat.toDigits 10 n

/-- The digits, with zeros in front up to the given width. -/
def padded (width : Nat) (ds : List Char) : List Char :=
  List.replicate (width - ds.length) '0' ++ ds

/-- The sign that is written before a magnitude. -/
def signText (negative : Bool) : List Char :=
  if negative then ['-'] else []

/-- The quotient `num / den` with the given number of decimal places. -/
def fixedQuotient (places num den : Nat) : List Char :=
  let scaled := roundQuotient (num * tenTo places) den
  numeral (scaled / tenTo places) ++ '.' :: padded places (numeral (scaled % tenTo places))

/-- A decoded double with the given number of decimal places. -/
def Binary64.fixed (places : Nat) : Binary64 → List Char
  | .nan => "NaN".toList
  | .infinite negative => signText negative ++ "inf".toList
  | .finite negative mantissa exponent =>
    let m := magnitude mantissa exponent
    signText negative ++ fixedQuotient places m.1 m.2

/-- The text of `x` with the given number of decimal places. -/
def fixedText (places : Nat) (x : Float) : String :=
  String.ofList ((Binary64.ofFloat x).fixed places)

end RingDiagram.Decimal
