/-
  NUMERALS: a decimal number as an operator writes it.

  `Numeral.read?` accepts the form in which settings give a number: spaces around it, a sign, digits
  with a point on either side or between them, an exponent, single underscores between digits, the
  words for infinity and for the undefined number in any case, and the decimal digits of every
  script.
-/
import LogDrain.Decimal.Binary64
import LogDrain.Decimal.Integer
import LogDrain.Text.Blank
import LogDrain.Text.Digits

namespace LogDrain.Decimal

namespace Numeral

/-! ## Spelling: every script's digits, ASCII spaces, no underscores -/

/-- A character in ASCII spelling; what is neither blank nor a digit cannot be part of a number. -/
def plainChar (c : Char) : Char :=
  if c.toNat < 0x7F then c
  else if Text.isBlank c then ' '
  else match Text.digitValue? c with
    | some n => Char.ofNat (0x30 + n)
    | none => '?'

/-- The spaces that may stand around a number. -/
def isSpace (c : Char) : Bool := c == ' ' || (0x9 ≤ c.toNat && c.toNat ≤ 0xD)

/-- The characters between the spaces. -/
def trimSpaces (cs : List Char) : List Char :=
  Text.dropTrailingWhile isSpace (cs.dropWhile isSpace)

/-- The text without its underscores, each of which has to stand between two digits. -/
def dropUnderscores? : List Char → Option (List Char)
  | [] => some []
  | [c] => if c = '_' then none else some [c]
  | c :: d :: rest =>
    if c = '_' then none
    else if d = '_' then
      match rest with
      | e :: _ => if c.isDigit && e.isDigit then (dropUnderscores? rest).map (c :: ·) else none
      | [] => none
    else (dropUnderscores? (d :: rest)).map (c :: ·)

/-! ## The grammar -/

/-- The sign, and what follows it. -/
def sign : List Char → Bool × List Char
  | '-' :: rest => (true, rest)
  | '+' :: rest => (false, rest)
  | cs => (false, cs)

/-- Is the text the word, in any case? -/
def isWord (word : String) (cs : List Char) : Bool := cs.map Char.toLower == word.toList

/-- The exponent that ends a number: none is nought. -/
def exponent? : List Char → Option Int
  | [] => some 0
  | c :: rest =>
    if c = 'e' ∨ c = 'E' then
      let (negative, digits) := sign rest
      if digits ≠ [] ∧ digits.all Char.isDigit then
        some (if negative then -(digitsValue digits : Int) else digitsValue digits)
      else none
    else none

/-- The digits after the point, and what follows them. -/
def fraction : List Char → List Char × List Char
  | '.' :: rest => (rest.takeWhile Char.isDigit, rest.dropWhile Char.isDigit)
  | cs => ([], cs)

/-- A number without its sign. -/
def unsigned? (negative : Bool) (cs : List Char) : Option Binary64 :=
  if isWord "inf" cs || isWord "infinity" cs then some (.infinite negative)
  else if isWord "nan" cs then some .nan
  else
    let whole := cs.takeWhile Char.isDigit
    let (decimals, rest) := fraction (cs.dropWhile Char.isDigit)
    if whole ++ decimals = [] then none
    else (exponent? rest).map fun e =>
      .ofDecimal negative (digitsValue (whole ++ decimals)) (e - decimals.length)

/-- The number that the text stands for. -/
def read? (s : String) : Option Binary64 := do
  let cs ← dropUnderscores? (trimSpaces (s.toList.map plainChar))
  let (negative, rest) := sign cs
  unsigned? negative rest

example : read? " 1_000.5 " = some (.ofDecimal false 10005 (-1)) := by decide +kernel
example : read? "-.5e-3" = some (.ofDecimal true 5 (-4)) := by decide +kernel
example : read? "+INFinity" = some (.infinite false) := by decide +kernel
example : read? "٣" = some (.ofDecimal false 3 0) := by decide +kernel
example : read? "." = none ∧ read? "1__0" = none ∧ read? "0x1" = none ∧ read? "" = none := by
  decide +kernel

end Numeral

end LogDrain.Decimal
