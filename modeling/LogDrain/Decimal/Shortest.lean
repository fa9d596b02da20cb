/-
  SHORTEST DECIMAL TEXT: the fewest digits that read back as the same number.

  A finite number owns the reals nearer to it than to its neighbours, the two ends included when its
  significand is even.  For one digit, two digits and so on, the number lies between two points of
  the decimal grid; the first grid with such a point inside the interval gives the digits, of two
  points the nearer one, on a tie the even one.  Seventeen digits always suffice.  All of it is done
  on natural numbers: the number, its half gaps and the grid are put over one denominator.

  `Layout` holds what is a matter of taste: from where to where a number is written out in full, and
  the fewest digits of an exponent.
-/
import LogDrain.Decimal.Binary64

namespace LogDrain.Decimal

/-! ## The interval of a number -/

/-- A positive number and the half gaps below and above it, over one denominator. -/
structure Reach where
  value : Nat
  below : Nat
  above : Nat
  denominator : Nat
  endsIncluded : Bool

/-- The reach of `m · 2^q`.  Below a power of two the gap is half as wide. -/
def Reach.of (m : Nat) (q : Int) : Reach :=
  let up := Nat.pow 2 q.toNat
  let down := Nat.pow 2 (-q).toNat
  let narrow := m = Binary64.significandStart ∧ -1074 < q
  { value := 4 * m * up, below := if narrow then up else 2 * up, above := 2 * up,
    denominator := 4 * down, endsIncluded := m % 2 = 0 }

/-- Does `point / denominator` read back as the number? -/
def Reach.holds (r : Reach) (point : Nat) : Bool :=
  if r.endsIncluded then r.value ≤ point + r.below && point ≤ r.value + r.above
  else r.value < point + r.below && point < r.value + r.above

/-! ## The digits -/

/-- The least `p` with `num / den < 10^p`, or `≤` where the number is below one. -/
def pointPlace (num den : Nat) : Int :=
  if den ≤ num then ((Nat.toDigits 10 (num / den)).length : Int)
  else 1 - ((Nat.toDigits 10 ((den - 1) / num)).length : Int)

/-- The point of the grid of step `10^step` that reads back, the nearer of two. -/
def Reach.onGrid? (r : Reach) (step : Int) : Option Nat :=
  let wide := Nat.pow 10 step.toNat
  let fine := Nat.pow 10 (-step).toNat
  let value := r.value * fine
  let unit := r.denominator * wide
  let low := value / unit
  let fits (k : Nat) : Bool := { r with value := value, below := r.below * fine,
                                        above := r.above * fine }.holds (k * unit)
  match fits low && low != 0, fits (low + 1) with
  | true, true =>
    let excess := 2 * (value - low * unit)
    if excess < unit then some low
    else if unit < excess then some (low + 1)
    else some (low + low % 2)
  | true, false => some low
  | false, true => some (low + 1)
  | false, false => none

/-- The digits on the first of the grids that has some, with the step of that grid. -/
def Reach.firstGrid (r : Reach) (place : Int) : List Nat → Nat × Int
  | [] => (0, 0)
  | count :: counts =>
    match r.onGrid? (place - count) with
    | some digits => (digits, place - count)
    | none => firstGrid r place counts

/-- `shortest m q = (d, e)` when `d · 10^e` has the fewest digits that read back as `m · 2^q`. -/
def shortest (m : Nat) (q : Int) : Nat × Int :=
  let r := Reach.of m q
  r.firstGrid (pointPlace r.value r.denominator) ((List.range 17).map (· + 1))

/-! ## The text -/

/-- How a number is laid out. -/
structure Layout where
  /-- The least decimal exponent that is written out in full. -/
  fullFrom : Int
  /-- The least decimal exponent above those that are written out in full. -/
  fullBelow : Int
  /-- The fewest digits of a written exponent. -/
  exponentDigits : Nat

/-- The layout of every number in this library: `0.0001` and `1000000000000000.0` are the last ones
    in full, and an exponent has two digits. -/
def Layout.standard : Layout := ⟨-4, 16, 2⟩

/-- The digits with the noughts at the end taken off. -/
def significantDigits (n : Nat) : List Char :=
  ((Nat.toDigits 10 n).reverse.dropWhile (· == '0')).reverse

/-- The digits with the point after the first `place` of them, a nought on an empty side. -/
def inFull (digits : List Char) (place : Int) : List Char :=
  if place ≤ 0 then '0' :: '.' :: (List.replicate (-place).toNat '0' ++ digits)
  else
    let whole := digits.take place.toNat
    let rest := digits.drop place.toNat
    whole ++ List.replicate (place.toNat - digits.length) '0' ++ '.' ::
      (if rest = [] then ['0'] else rest)

/-- The digits with the point after the first one and a written exponent. -/
def withExponent (layout : Layout) (digits : List Char) (exponent : Int) : List Char :=
  let written := Nat.toDigits 10 exponent.natAbs
  digits.take 1 ++ (if digits.length ≤ 1 then [] else '.' :: digits.drop 1) ++
    'e' :: (if exponent < 0 then '-' else '+') ::
      (List.replicate (layout.exponentDigits - written.length) '0' ++ written)

/-- The text of a positive number. -/
def positiveText (layout : Layout) (m : Nat) (q : Int) : List Char :=
  let (number, power) := shortest m q
  let place : Int := power + (Nat.toDigits 10 number).length
  let digits := significantDigits number
  if layout.fullFrom ≤ place - 1 ∧ place - 1 < layout.fullBelow then inFull digits place
  else withExponent layout digits (place - 1)

/-- The shortest text that reads back as the number. -/
def Binary64.text : Binary64 → String
  | .nan => "nan"
  | .infinite negative => if negative then "-inf" else "inf"
  | .finite negative m q =>
    (if negative then "-" else "") ++
      (if m = 0 then "0.0" else String.ofList (positiveText .standard m q))

example : (Binary64.ofDecimal false 30 0).text = "30.0" := by decide +kernel
example : (Binary64.ofDecimal false 1 (-1)).text = "0.1" := by decide +kernel
example : (Binary64.ofDecimal false 1 16).text = "1e+16" := by decide +kernel
example : (Binary64.ofDecimal true 1 (-5)).text = "-1e-05" := by decide +kernel
example : (Binary64.ofDecimal false 123456789012345678 0).text = "1.2345678901234568e+17" := by
  decide +kernel
example : (Binary64.ofDecimal false 5 (-324)).text = "5e-324" := by decide +kernel

end LogDrain.Decimal
