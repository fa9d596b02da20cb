/-
  READING JSON, and where a text goes wrong.

  Readers take the text that is left and give a value with the text after it.  A reader that meets
  what it cannot read reports the text from there on; its length tells the position in the whole
  (`Fault.malformed`).  The language is JSON with three more numbers (`NaN`, `Infinity` and
  `-Infinity`), blank characters being the space, the tab, the line feed and the carriage return.

    * A string must not hold a raw control character.  An escape of four digits gives one UTF-16
      unit; the halves of a pair make one character, and a half alone the replacement character.
    * A number without a point and an exponent is an exact integer of at most 4300 digits; a longer
      one is a fault of its own, without a position.
    * An object's fields are written one after the other (`Fields.ofPairs`).

  Reading is by recursion on a number of steps, which `read` takes from the length of the text:
  every step but one in two takes a character.  Values may be nested to any depth; a reader that
  keeps its place on a stack gives up on a text of some hundreds of open brackets, and that limit is
  left out here.
-/
import LogDrain.Decimal.Numeral
import LogDrain.Json.Basic
import LogDrain.Text.Hex
import LogDrain.Text.Utf16

namespace LogDrain.Json

open Decimal (Binary64 digitsValue)

/-- What stops a reader: a place in the text, given by what is left from there, or too large an
    integer. -/
inductive Stop where
  | malformed (left : List Char)
  | integerTooLong

/-- A value and the text after it. -/
abbrev Reading (α : Type) := Except Stop (α × List Char)

/-- The blank characters between the parts of a text. -/
def isSpace (c : Char) : Bool := c == ' ' || c == '\t' || c == '\n' || c == '\r'

/-- The text after the blank characters. -/
def skipSpaces (cs : List Char) : List Char := cs.dropWhile isSpace

/-! ## Strings -/

/-- The character that a short escape stands for. -/
def shortEscape? (c : Char) : Option Char :=
  if c = '"' ∨ c = '\\' ∨ c = '/' then some c
  else if c = 'b' then some '\x08'
  else if c = 'f' then some '\x0c'
  else if c = 'n' then some '\n'
  else if c = 'r' then some '\r'
  else if c = 't' then some '\t'
  else none

/-- Where a string's reader is: between characters, after the backslash at `left`, or inside the
    escape whose letter is at `left`, with `value` read and `count` digits to come. -/
inductive Within where
  | plain
  | escape (left : List Char)
  | digits (left : List Char) (count : Nat) (value : Nat)

/-- A unit in front of what the rest of the string gives. -/
def consUnit (n : Nat) (rest : Reading (List Nat)) : Reading (List Nat) :=
  rest.map fun (units, after) => (n :: units, after)

/-- The units of a string up to its closing quote; `start` is the text from the opening one. -/
def readUnits (start : List Char) : Within → List Char → Reading (List Nat)
  | .plain, [] => .error (.malformed start)
  | .escape _, [] => .error (.malformed start)
  | .digits left _ _, [] => .error (.malformed left)
  | .plain, c :: cs =>
    if c = '"' then .ok ([], cs)
    else if c = '\\' then readUnits start (.escape (c :: cs)) cs
    else if c.toNat < 0x20 then .error (.malformed (c :: cs))
    else consUnit c.toNat (readUnits start .plain cs)
  | .escape left, c :: cs =>
    if c = 'u' then readUnits start (.digits (c :: cs) 4 0) cs
    else match shortEscape? c with
      | some e => consUnit e.toNat (readUnits start .plain cs)
      | none => .error (.malformed left)
  | .digits left count value, c :: cs =>
    match Text.Hex.value? c with
    | none => .error (.malformed left)
    | some d =>
      if count ≤ 1 then
        if cs = [] then .error (.malformed left)
        else consUnit (value * 16 + d) (readUnits start .plain cs)
      else readUnits start (.digits left (count - 1) (value * 16 + d)) cs

/-- The string whose opening quote `start` begins with, `cs` being the text after that quote. -/
def readString (start cs : List Char) : Reading String :=
  (readUnits start .plain cs).map fun (units, rest) =>
    (String.ofList (Text.Utf16.chars units), rest)

/-! ## Numbers -/

/-- The most digits of an integer. -/
def maxIntegerDigits : Nat := 4300

/-- The digits before the point: a nought alone, or a run that does not start with one. -/
def readWhole? : List Char → Option (List Char × List Char)
  | [] => none
  | c :: cs =>
    if c = '0' then some (['0'], cs)
    else if c.isDigit then
      some (c :: cs.takeWhile Char.isDigit, cs.dropWhile Char.isDigit)
    else none

/-- The digits after a point; a point without digits belongs to what follows the number. -/
def readDecimals : List Char → List Char × List Char
  | '.' :: c :: cs =>
    if c.isDigit then (c :: cs.takeWhile Char.isDigit, cs.dropWhile Char.isDigit)
    else ([], '.' :: c :: cs)
  | cs => ([], cs)

/-- The exponent; a letter without digits belongs to what follows the number. -/
def readExponent? : List Char → Option (Int × List Char)
  | [] => none
  | c :: cs =>
    if c = 'e' ∨ c = 'E' then
      let (negative, rest) := Decimal.Numeral.sign cs
      let digits := rest.takeWhile Char.isDigit
      if digits = [] then none
      else some (if negative then -(digitsValue digits : Int) else digitsValue digits,
                 rest.dropWhile Char.isDigit)
    else none

/-- The number that `start` begins with, `body` being the text after its sign. -/
def readNumber (start : List Char) (negative : Bool) (body : List Char) : Reading Json :=
  match readWhole? body with
  | none => .error (.malformed start)
  | some (whole, afterWhole) =>
    let (decimals, afterDecimals) := readDecimals afterWhole
    match decimals, readExponent? afterDecimals with
    | [], none =>
      if maxIntegerDigits < whole.length then .error .integerTooLong
      else
        let n : Int := digitsValue whole
        .ok (.int (if negative then -n else n), afterDecimals)
    | _, none =>
      .ok (.real (.ofDecimal negative (digitsValue (whole ++ decimals)) (-decimals.length)),
           afterDecimals)
    | _, some (exponent, rest) =>
      .ok (.real (.ofDecimal negative (digitsValue (whole ++ decimals))
            (exponent - decimals.length)), rest)

/-! ## Words -/

/-- The values that have a word, with their words. -/
def words : List (List Char × Json) :=
  [("null".toList, .null), ("true".toList, .bool true), ("false".toList, .bool false),
   ("NaN".toList, .real .nan), ("Infinity".toList, .real (.infinite false)),
   ("-Infinity".toList, .real (.infinite true))]

/-- The text after the word, if it starts with it. -/
def afterWord? : List Char → List Char → Option (List Char)
  | [], cs => some cs
  | _ :: _, [] => none
  | w :: ws, c :: cs => if w = c then afterWord? ws cs else none

/-- The value of the word that the text starts with. -/
def readWord? (cs : List Char) : Option (Json × List Char) :=
  words.findSome? fun (word, value) => (afterWord? word cs).map (value, ·)

/-- A value that is neither a string nor a collection. -/
def readScalar (cs : List Char) : Reading Json :=
  match readWord? cs with
  | some reading => .ok reading
  | none =>
    match cs with
    | '-' :: rest => readNumber cs true rest
    | _ => readNumber cs false cs

/-! ## Values -/

/-- The text after a character that has to come next. -/
def expect (c : Char) : List Char → Except Stop (List Char)
  | d :: cs => if d = c then .ok cs else .error (.malformed (d :: cs))
  | [] => .error (.malformed [])

mutual

/-- A value, in at most so many steps. -/
def readValue : Nat → List Char → Reading Json
  | 0, cs => .error (.malformed cs)
  | _ + 1, [] => .error (.malformed [])
  | steps + 1, c :: cs =>
    if c = '"' then (readString (c :: cs) cs).map fun (s, rest) => (.str s, rest)
    else if c = '[' then
      match skipSpaces cs with
      | ']' :: rest => .ok (.arr [], rest)
      | inner => (readItems steps inner).map fun (items, rest) => (.arr items, rest)
    else if c = '\x7b' then
      match skipSpaces cs with
      | '\x7d' :: rest => .ok (.obj [], rest)
      | inner => (readPairs steps inner).map fun (pairs, rest) =>
        (.obj (Fields.ofPairs pairs), rest)
    else readScalar (c :: cs)

/-- The items of an array up to its end. -/
def readItems : Nat → List Char → Except Stop (List Json × List Char)
  | 0, cs => .error (.malformed cs)
  | steps + 1, cs => do
    let (v, rest) ← readValue steps cs
    match skipSpaces rest with
    | ']' :: after => return ([v], after)
    | left =>
      let next ← expect ',' left
      let (vs, after) ← readItems steps (skipSpaces next)
      return (v :: vs, after)

/-- The pairs of an object up to its end. -/
def readPairs : Nat → List Char → Except Stop (List (String × Json) × List Char)
  | 0, cs => .error (.malformed cs)
  | steps + 1, cs => do
    let inner ← expect '"' cs
    let (k, afterKey) ← readString cs inner
    let afterColon ← expect ':' (skipSpaces afterKey)
    let (v, rest) ← readValue steps (skipSpaces afterColon)
    match skipSpaces rest with
    | '\x7d' :: after => return ([(k, v)], after)
    | left =>
      let next ← expect ',' left
      let (pairs, after) ← readPairs steps (skipSpaces next)
      return ((k, v) :: pairs, after)

end

/-! ## Whole texts -/

/-- Why a text is no JSON: at which character it goes wrong, or an integer that is too long. -/
inductive Fault where
  | malformed (position : Nat)
  | integerTooLong
  deriving DecidableEq, Repr

/-- The fault in a text of the given length. -/
def Stop.fault (length : Nat) : Stop → Fault
  | .malformed left => .malformed (length - left.length)
  | .integerTooLong => .integerTooLong

/-- The value that the whole text is. -/
def readWhole (cs : List Char) : Except Stop Json := do
  let (v, rest) ← readValue (2 * cs.length + 2) (skipSpaces cs)
  match skipSpaces rest with
  | [] => return v
  | left => .error (.malformed left)

/-- The value of a text. -/
def read (cs : List Char) : Except Fault Json := (readWhole cs).mapError (Stop.fault cs.length)

/-! ## Positions -/

/-- The position at which a text is found to be no JSON. -/
def faultPosition? (text : String) : Option Nat :=
  match read text.toList with
  | .error (.malformed position) => some position
  | _ => none

example : faultPosition? "" = some 0 ∧ faultPosition? "[1,]" = some 3 := by decide +kernel
example : faultPosition? "\x7b\"a\" 1\x7d" = some 5 ∧ faultPosition? "1 2" = some 2 := by
  decide +kernel
example : faultPosition? "[\"ab" = some 1 ∧ faultPosition? "\"\\u12g4 \"" = some 2 := by
  decide +kernel
example : faultPosition? "[-]" = some 1 ∧ faultPosition? "\"a\nb\"" = some 2 := by decide +kernel
example : faultPosition? " [\"\\ud83d\\ude00\", -0, 1.5e3, NaN] " = none := by decide +kernel

end LogDrain.Json
