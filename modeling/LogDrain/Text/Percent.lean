/-
  PERCENT ENCODING: a text as one segment of an address.

  The UTF-8 bytes of the text are written one by one: an unreserved character (ASCII letters,
  digits, underscore, full stop, hyphen, tilde) stands for itself, every other byte is a percent
  sign and two hexadecimal digits in upper case.  So a segment never holds a slash, a question mark,
  a number sign or a space, whatever the text.
-/
import LogDrain.Text.Hex
import LogDrain.Text.Utf8

namespace LogDrain.Text.Percent

/-- The bytes that stand for themselves. -/
def isUnreserved (b : UInt8) : Bool :=
  let n := b.toNat
  (0x30 ≤ n && n ≤ 0x39) || (0x41 ≤ n && n ≤ 0x5A) || (0x61 ≤ n && n ≤ 0x7A)
    || n == 0x5F || n == 0x2E || n == 0x2D || n == 0x7E

/-- One byte of a segment. -/
def encodeByte (b : UInt8) : List Char :=
  if isUnreserved b then [Char.ofNat b.toNat] else '%' :: Hex.upperDigits 2 b.toNat

/-- The text as one segment. -/
def encode (s : String) : String := String.ofList ((Utf8.encode s.toList).flatMap encodeByte)

example : encode "my-app_1.x~" = "my-app_1.x~" := by decide +kernel
example : encode "a/b c?é" = "a%2Fb%20c%3F%C3%A9" := by decide +kernel

end LogDrain.Text.Percent
