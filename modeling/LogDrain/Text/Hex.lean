/-
  HEXADECIMAL DIGITS: numbers of a fixed width, and the value of a digit.

  `lowerDigits w n` and `upperDigits w n` write the last `w` hexadecimal digits of `n`; `value?`
  reads one digit of either case.  `value?_lowerDigit` and `value?_upperDigit` say that a written
  digit is read back.
-/

namespace LogDrain.Text.Hex

/-- The digit of value `n`, in lower case. -/
def lowerDigit (n : Nat) : Char := if n < 10 then Char.ofNat (0x30 + n) else Char.ofNat (0x57 + n)

/-- The digit of value `n`, in upper case. -/
def upperDigit (n : Nat) : Char := if n < 10 then Char.ofNat (0x30 + n) else Char.ofNat (0x37 + n)

/-- The last `width` digits of `n`, in lower case. -/
def lowerDigits : Nat → Nat → List Char
  | 0, _ => []
  | width + 1, n => lowerDigits width (n / 16) ++ [lowerDigit (n % 16)]

/-- The last `width` digits of `n`, in upper case. -/
def upperDigits : Nat → Nat → List Char
  | 0, _ => []
  | width + 1, n => upperDigits width (n / 16) ++ [upperDigit (n % 16)]

/-- The value of a digit of either case. -/
def value? (c : Char) : Option Nat :=
  let n := c.toNat
  if 0x30 ≤ n ∧ n ≤ 0x39 then some (n - 0x30)
  else if 0x61 ≤ n ∧ n ≤ 0x66 then some (n - 0x57)
  else if 0x41 ≤ n ∧ n ≤ 0x46 then some (n - 0x37)
  else none

theorem value?_lowerDigit : ∀ n : Fin 16, value? (lowerDigit n) = some n.val := by decide

theorem value?_upperDigit : ∀ n : Fin 16, value? (upperDigit n) = some n.val := by decide

example : lowerDigits 4 0xE9 = ['0', '0', 'e', '9'] := by decide
example : upperDigits 2 0x2F = ['2', 'F'] := by decide

end LogDrain.Text.Hex
