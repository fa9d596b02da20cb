/-
  QUOTED TEXT: a text between quotes, unprintable characters escaped, for showing to a reader.

  The apostrophe quotes, unless the text holds an apostrophe and no double quote; then the double
  quote does.  Inside, a backslash and the chosen quote are escaped, tab, line feed and carriage
  return have short escapes, and every other unprintable character is written with two, four or
  eight hexadecimal digits, whichever is the least that suffices.
-/
import LogDrain.Text.Hex
import LogDrain.Text.Printable

namespace LogDrain.Text

/-- The quote that needs fewer escapes; the apostrophe where both would do. -/
def quoteFor (cs : List Char) : Char :=
  if cs.contains '\x27' && !cs.contains '"' then '"' else '\x27'

/-- An unprintable character in two, four or eight digits. -/
def escapeCode (n : Nat) : List Char :=
  if n < 0x100 then '\\' :: 'x' :: Hex.lowerDigits 2 n
  else if n < 0x10000 then '\\' :: 'u' :: Hex.lowerDigits 4 n
  else '\\' :: 'U' :: Hex.lowerDigits 8 n

/-- One character between the quotes `q`. -/
def quoteChar (q c : Char) : List Char :=
  if c = q ∨ c = '\\' then ['\\', c]
  else if c = '\n' then ['\\', 'n']
  else if c = '\r' then ['\\', 'r']
  else if c = '\t' then ['\\', 't']
  else if isPrintable c then [c]
  else escapeCode c.toNat

/-- The text between quotes. -/
def quoted (s : String) : String :=
  let q := quoteFor s.toList
  String.ofList (q :: s.toList.flatMap (quoteChar q) ++ [q])

example : quoted "loki" = "'loki'" := by decide +kernel
example : quoted "it's" = "\"it's\"" := by decide +kernel
example : quoted "'\"\\\n\x01\u200b" = "'\\'\"\\\\\\n\\x01\\u200b'" := by decide +kernel

end LogDrain.Text
