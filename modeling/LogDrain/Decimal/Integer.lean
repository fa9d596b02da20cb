/-
  INTEGERS AS DIGITS: the number of a run of digits, and the digits of a number.
-/

namespace LogDrain.Decimal

/-- The number that a run of ASCII digits stands for. -/
def digitsValue (digits : List Char) : Nat :=
  digits.foldl (fun n c => n * 10 + (c.toNat - 0x30)) 0

/-- An integer: a minus sign where it is negative, and its digits. -/
def intDigits (n : Int) : List Char :=
  if n < 0 then '-' :: Nat.toDigits 10 n.natAbs else Nat.toDigits 10 n.natAbs

/-- The text of an integer. -/
def intText (n : Int) : String := String.ofList (intDigits n)

example : digitsValue ['0', '4', '2'] = 42 := by decide
example : intText (-15) = "-15" ∧ intText 0 = "0" := by decide +kernel

end LogDrain.Decimal
