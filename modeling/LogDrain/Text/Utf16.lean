/-
  UTF-16 UNITS: pairs of halves and the characters they stand for.

  A character beyond U+FFFF is two units, a high and a low half; every other character is one unit.
  `ofChar` writes the units of a character and `chars` reads units, joining a high half with the low
  half right after it.  A half without its partner stands for no character.
-/
import LogDrain.Text.Utf8

namespace LogDrain.Text.Utf16

/-- The units of one character. -/
def ofChar (c : Char) : List Nat :=
  let n := c.toNat
  if n < 0x10000 then [n]
  else [0xD800 + (n - 0x10000) / 0x400, 0xDC00 + (n - 0x10000) % 0x400]

/-- The first half of a pair. -/
def isHigh (n : Nat) : Bool := 0xD800 ≤ n && n < 0xDC00

/-- The second half of a pair. -/
def isLow (n : Nat) : Bool := 0xDC00 ≤ n && n < 0xE000

/-- The code point of a pair. -/
def join (high low : Nat) : Nat := 0x10000 + (high - 0xD800) * 0x400 + (low - 0xDC00)

/-- The characters of the units; a code point beyond U+FFFF may stand for itself. -/
def chars : List Nat → List Char
  | [] => []
  | [n] => [Utf8.charOf n]
  | high :: low :: rest =>
    if isHigh high && isLow low then Utf8.charOf (join high low) :: chars rest
    else Utf8.charOf high :: chars (low :: rest)

example : chars ("a😀é".toList.flatMap ofChar) = "a😀é".toList := by decide +kernel
example : chars [0xD83D, 0x41] = [Utf8.replacement, 'A'] := by decide +kernel

end LogDrain.Text.Utf16
