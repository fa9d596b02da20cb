/-
  WRITING JSON: one text per value, in ASCII.

  Items are parted by a comma and a space, keys and values by a colon and a space, and fields stand
  in their order.  In a string the quote, the backslash and the five controls with a short escape
  have two characters; every other character outside the printable ASCII ones is written in UTF-16
  units, `\u` and four digits each.  So a written text holds neither a raw control character nor
  anything beyond ASCII.
-/
import LogDrain.Decimal.Integer
import LogDrain.Decimal.Shortest
import LogDrain.Json.Basic
import LogDrain.Text.Hex
import LogDrain.Text.Utf16

namespace LogDrain.Json

open Decimal (Binary64)

/-! ## Strings -/

/-- One unit, escaped by its number. -/
def unitEscape (n : Nat) : List Char := '\\' :: 'u' :: Text.Hex.lowerDigits 4 n

/-- One character of a string. -/
def writeChar (c : Char) : List Char :=
  if c = '"' then ['\\', '"']
  else if c = '\\' then ['\\', '\\']
  else if c = '\n' then ['\\', 'n']
  else if c = '\r' then ['\\', 'r']
  else if c = '\t' then ['\\', 't']
  else if c = '\x0c' then ['\\', 'f']
  else if c = '\x08' then ['\\', 'b']
  else if 0x20 ≤ c.toNat ∧ c.toNat < 0x7F then [c]
  else (Text.Utf16.ofChar c).flatMap unitEscape

/-- A string between its quotes. -/
def writeString (s : String) : List Char := '"' :: (s.toList.flatMap writeChar ++ ['"'])

/-! ## Numbers -/

/-- A number of the 64 bit format; those that are no numbers have words of their own. -/
def writeReal : Binary64 → List Char
  | .nan => "NaN".toList
  | .infinite negative => (if negative then "-Infinity" else "Infinity").toList
  | x => x.text.toList

/-! ## Values -/

mutual

/-- The text of a value. -/
def writeChars : Json → List Char
  | .null => "null".toList
  | .bool b => (if b then "true" else "false").toList
  | .int n => Decimal.intDigits n
  | .real x => writeReal x
  | .str s => writeString s
  | .arr [] => ['[', ']']
  | .arr (v :: vs) => '[' :: (writeChars v ++ writeItems vs)
  | .obj [] => ['\x7b', '\x7d']
  | .obj ((k, v) :: fs) => '\x7b' :: (writeString k ++ ':' :: ' ' :: writeChars v ++ writeFields fs)

/-- The items after the first, and the end of the array. -/
def writeItems : List Json → List Char
  | [] => [']']
  | v :: vs => ',' :: ' ' :: (writeChars v ++ writeItems vs)

/-- The fields after the first, and the end of the object. -/
def writeFields : List (String × Json) → List Char
  | [] => ['\x7d']
  | (k, v) :: fs => ',' :: ' ' :: (writeString k ++ ':' :: ' ' :: writeChars v ++ writeFields fs)

end

/-- The text of a value. -/
def write (v : Json) : String := String.ofList v.writeChars

example : write (.obj [("a", .arr [.int 1, .null]), ("é\n", .str "😀")]) =
    "\x7b\"a\": [1, null], \"\\u00e9\\n\": \"\\ud83d\\ude00\"\x7d" := by decide +kernel
example : write (.arr [.real (.ofDecimal false 15 (-1)), .bool true, .obj []]) =
    "[1.5, true, \x7b\x7d]" := by decide +kernel

end LogDrain.Json
