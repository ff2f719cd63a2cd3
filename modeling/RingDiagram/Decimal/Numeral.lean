import RingDiagram.Decimal.Binary64

/-!
# Reading numbers

`readNat?` reads a natural number written with ASCII digits. `readFloat?` reads a decimal number:
an optional sign, then `inf`, `infinity` or `nan` in any case, or digits with an optional point
among or beside them and an optional exponent; the answer is the nearest double.
-/

namespace RingDiagram.Decimal

/-- The value of a list of ASCII digits, read after the digits of `start`. -/
def digitsValue (start : Nat) (ds : List Char) : Nat :=
  ds.foldl (fun n c => 10 * n + (c.toNat - '0'.toNat)) start

/-- The number that a non-empty list of ASCII digits writes, leading zeros allowed. -/
def readNat? (text : List Char) : Option Nat :=
  if !text.isEmpty && text.all Char.isDigit then some (digitsValue 0 text) else none

/-- A sign at the front of a text, as "is negative", and what follows it. -/
def readSign : List Char → Bool × List Char
  | '+' :: rest => (false, rest)
  | '-' :: rest => (true, rest)
  | text => (false, text)

/-- The exponent that ends a decimal number: nothing at all, or the letter, an optional sign and
digits. -/
def readExponent? : List Char → Option Int
  | [] => some 0
  | c :: rest =>
    if c.toLower = 'e' then
      let (negative, ds) := readSign rest
      (readNat? ds).map fun n => if negative then -(n : Int) else n
    else none

/-- The nearest double to `coefficient * 10 ^ power`. Numbers far beyond the greatest double, or
far below the least one, are settled by their order of magnitude. -/
def decimalFloat (negative : Bool) (coefficient : Nat) (power : Int) : Float :=
  let order := ((Nat.toDigits 10 coefficient).length : Int) + power
  if coefficient = 0 ∨ order < -400 then nearestFloat negative 0 1
  else if 400 < order then infinity negative
  else nearestFloat negative (coefficient * tenTo power.toNat) (tenTo (-power).toNat)

/-- A decimal number without its sign. -/
def readMagnitude? (negative : Bool) (text : List Char) : Option Float :=
  let (whole, rest) := text.span Char.isDigit
  let (fraction, rest) :=
    match rest with
    | '.' :: more => more.span Char.isDigit
    | _ => ([], rest)
  if whole.isEmpty && fraction.isEmpty then none
  else
    -- the digits after the point count as whole digits with a lower exponent
    (readExponent? rest).map fun exponent =>
      decimalFloat negative (digitsValue 0 (whole ++ fraction)) (exponent - fraction.length)

/-- The double that a text writes, if it is a number. -/
def readFloat? (text : String) : Option Float :=
  let (negative, rest) := readSign text.toList
  let word := String.ofList (rest.map Char.toLower)
  if word = "inf" ∨ word = "infinity" then some (infinity negative)
  else if word = "nan" then some (0 / 0)
  else readMagnitude? negative rest

end RingDiagram.Decimal
