import RingDiagram.Decimal.Fixed

/-!
# The shortest decimal that reads back

A positive double is the nearest double to every real number of an interval around it, the ends
included when its mantissa is even. Its shortest decimal is taken from the coarsest decimal grid
that has a point in the interval, and of two points the nearer; a tie goes up. It suffices to
look at the two neighbours of the double on each grid.

`plainText` writes that decimal positionally and a whole number without a point. `preciseText`
always shows a point or an exponent, and takes the exponent form outside `10 ^ (-4)` to
`10 ^ 16`.
-/

namespace RingDiagram.Decimal

/-- A decimal `0.d₁d₂… * 10 ^ point`, written by its digits. -/
structure Expansion where
  digits : List Char
  point : Int
  deriving DecidableEq, Repr, Inhabited

/-- The real numbers that round to a double, and the double itself, in units of `unit.1 / unit.2`.
-/
structure Neighbourhood where
  low : Nat
  value : Nat
  high : Nat
  unit : Nat × Nat
  /-- Whether the two ends round to the double as well. -/
  closed : Bool

/-- The numbers that round to the double `mantissa * 2 ^ exponent`. Below a power of two the
doubles lie twice as close. -/
def Neighbourhood.of (mantissa : Nat) (exponent : Int) : Neighbourhood where
  low := 4 * mantissa -
    if mantissa = leadingMantissa ∧ leastExponent < exponent then 1 else 2
  value := 4 * mantissa
  high := 4 * mantissa + 2
  unit := powerOfTwo (exponent - 2)
  closed := mantissa % 2 == 0

/-- The number of digits before the point of the positive quotient `num / den`, or minus the
number of zeros after it. -/
def pointOf (num den : Nat) : Int :=
  ((numeral (num * tenTo 350 / den)).length : Int) - 350

/-- The multiple of `10 ^ power` nearest to the double among its two neighbours that round to it,
as a multiplier. -/
def Neighbourhood.onGrid? (n : Neighbourhood) (power : Int) : Option Nat :=
  let grid := tenTo power.toNat * n.unit.2
  let scale := n.unit.1 * tenTo (-power).toNat
  let below := n.value * scale / grid
  let inside (c : Nat) : Bool :=
    if n.closed then n.low * scale ≤ c * grid && c * grid ≤ n.high * scale
    else n.low * scale < c * grid && c * grid < n.high * scale
  -- both neighbours may lie inside; then the nearer one is taken, the upper one on a tie
  if inside below then
    if inside (below + 1) && (2 * below + 1) * grid ≤ 2 * n.value * scale then some (below + 1)
    else some below
  else if inside (below + 1) then some (below + 1)
  else none

/-- The expansion of `coefficient * 10 ^ power`, without zeros at its end. -/
def Expansion.of (coefficient : Nat) (power : Int) : Expansion :=
  let ds := numeral coefficient
  { digits := (ds.reverse.dropWhile (· == '0')).reverse, point := ds.length + power }

/-- The shortest expansion that reads back as the positive double `mantissa * 2 ^ exponent`.
Seventeen digits are always enough. -/
def shortest (mantissa : Nat) (exponent : Int) : Expansion :=
  let m := magnitude mantissa exponent
  let point := pointOf m.1 m.2
  let n := Neighbourhood.of mantissa exponent
  let found := (List.range 17).findSome? fun i =>
    -- the grid on which the double has `i + 1` digits, so coarse grids come first
    let power := point - (i + 1 : Nat)
    (n.onGrid? power).map (Expansion.of · power)
  found.getD ⟨numeral mantissa, 0⟩

/-- The expansion written without an exponent; `whole` is what follows a whole number. -/
def Expansion.positional (whole : List Char) (e : Expansion) : List Char :=
  -- all digits stand behind the point, and zeros before them
  if e.point ≤ 0 then '0' :: '.' :: (List.replicate (-e.point).toNat '0' ++ e.digits)
  else
    let before := e.point.toNat
    -- the digits end before the point does, so the number is whole
    if e.digits.length ≤ before then
      e.digits ++ List.replicate (before - e.digits.length) '0' ++ whole
    else e.digits.take before ++ '.' :: e.digits.drop before

/-- The expansion with one digit before the point and an exponent. -/
def Expansion.scientific (e : Expansion) : List Char :=
  let exponent := e.point - 1
  let fraction := e.digits.drop 1
  e.digits.take 1 ++ (if fraction.isEmpty then [] else '.' :: fraction) ++
    'e' :: signText (exponent < 0) ++ numeral exponent.natAbs

/-- The shortest positional decimal of a decoded double. -/
def Binary64.plain : Binary64 → List Char
  | .nan => "NaN".toList
  | .infinite negative => signText negative ++ "inf".toList
  | .finite negative mantissa exponent =>
    signText negative ++
      if mantissa = 0 then ['0'] else (shortest mantissa exponent).positional []

/-- The shortest decimal of a decoded double that shows a point or an exponent. -/
def Binary64.precise : Binary64 → List Char
  | .nan => "NaN".toList
  | .infinite negative => signText negative ++ "inf".toList
  | .finite negative mantissa exponent =>
    signText negative ++
      if mantissa = 0 then ['0', '.', '0']
      else
        let e := shortest mantissa exponent
        if e.point < -3 ∨ 16 < e.point then e.scientific else e.positional ['.', '0']

/-- The shortest positional decimal of `x`, without a point for a whole number. -/
def plainText (x : Float) : String :=
  String.ofList (Binary64.ofFloat x).plain

/-- The shortest decimal of `x` that shows a point or an exponent. -/
def preciseText (x : Float) : String :=
  String.ofList (Binary64.ofFloat x).precise

end RingDiagram.Decimal
