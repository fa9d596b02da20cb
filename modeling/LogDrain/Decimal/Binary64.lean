/-
  BINARY64 NUMBERS, EXACTLY: a number of the 64 bit format as the integers that make it up.

  A finite number is a sign, a significand `m` and an exponent `q`, worth `m · 2^q`.  Nothing here
  rounds except `ofDecimal`, which takes `d · 10^e` to the nearest number of the format, ties to the
  even significand, by division of natural numbers: the quotient is scaled until it has 53 bits, or
  until the exponent is the least one.

  Numbers of 400 or more digits before the point are infinite, and numbers with 400 or more noughts
  after it are zero, so no power of ten beyond that is ever built.
-/

namespace LogDrain.Decimal

/-- A number of the 64 bit format. -/
inductive Binary64 where
  | nan
  | infinite (negative : Bool)
  | finite (negative : Bool) (significand : Nat) (exponent : Int)
  deriving DecidableEq, Repr

namespace Binary64

/-- The least significand of 53 bits. -/
def significandStart : Nat := Nat.pow 2 52

/-- The first number that has more than 53 bits. -/
def significandEnd : Nat := Nat.pow 2 53

/-- Zero of either sign. -/
def zero (negative : Bool) : Binary64 := .finite negative 0 (-1074)

/-- Is the number zero, of either sign? -/
def isZero : Binary64 → Bool
  | .finite _ significand _ => significand == 0
  | _ => false

/-- Is it a number, and not an infinite one? -/
def isFinite : Binary64 → Bool
  | .finite _ _ _ => true
  | _ => false

/-- The nearest integer to `num / den`, ties to the even one. -/
def roundDiv (num den : Nat) : Nat :=
  let down := num / den
  let twice := 2 * (num % den)
  if twice < den then down
  else if den < twice then down + 1
  else down + down % 2

/-- `num / den` divided by `2^q`, as a fraction. -/
def scale (num den : Nat) (q : Int) : Nat × Nat :=
  if 0 ≤ q then (num, den * Nat.pow 2 q.toNat) else (num * Nat.pow 2 (-q).toNat, den)

/-- The exponent at which `num / den` has 53 bits before the point, at least the least one. -/
def exponentFor (num den : Nat) : Int :=
  let least : Int := -1074
  let guess := max ((num.log2 : Int) - den.log2 - 53) least
  let (n, d) := scale num den guess
  if n / d < significandEnd then guess else guess + 1

/-- The number nearest to `num / den`. -/
def ofRatio (negative : Bool) (num den : Nat) : Binary64 :=
  let q := exponentFor num den
  let (n, d) := scale num den q
  let m := roundDiv n d
  let (m, q) := if m = significandEnd then (significandStart, q + 1) else (m, q)
  if 971 < q then .infinite negative else .finite negative m q

/-- The number nearest to `digits · 10^power`. -/
def ofDecimal (negative : Bool) (digits : Nat) (power : Int) : Binary64 :=
  if digits = 0 then zero negative
  else if 400 < power then .infinite negative
  else if power < -(400 + digits.log2) then zero negative
  else if 0 ≤ power then ofRatio negative (digits * Nat.pow 10 power.toNat) 1
  else ofRatio negative digits (Nat.pow 10 (-power).toNat)

/-! ## Ties, the largest and the least number -/

example : ofDecimal false 1 0 = .finite false significandStart (-52) := by decide +kernel
example : ofDecimal false 9007199254740993 0 = .finite false significandStart 1 := by decide +kernel
example : ofDecimal true 5 (-324) = .finite true 1 (-1074) := by decide +kernel
example : ofDecimal false 2 (-324) = zero false := by decide +kernel
example : ofDecimal false 17976931348623158 292 = .finite false (significandEnd - 1) 971 := by
  decide +kernel
example : ofDecimal false 1 400 = .infinite false := by decide +kernel

end Binary64

end LogDrain.Decimal
