/-
  BLANK TEXT: the characters that count as blank, and trimming.

  Blank are the characters of Unicode white space together with the four information separators
  U+001C to U+001F.  The zero width space and the byte order mark are no white space and stay.

    * `trim`            takes the blank characters off both ends;
    * `isBlankText`     says that nothing else is there, so `trim` leaves the empty text;
    * `dropTrailing c`  takes every `c` off the end, as base addresses lose their slashes;
    * `dropLineBreak`   takes one line break off the end.
-/
import LogDrain.Text.Ranges

namespace LogDrain.Text

/-- The blank code points, as rising intervals. -/
def blankRanges : List CodeRange :=
  [(0x9, 0xD), (0x1C, 0x20), (0x85, 0x85), (0xA0, 0xA0), (0x1680, 0x1680), (0x2000, 0x200A),
   (0x2028, 0x2029), (0x202F, 0x202F), (0x205F, 0x205F), (0x3000, 0x3000)]

/-- A character that trimming takes away. -/
def isBlank (c : Char) : Bool := CodeRange.anyHolds blankRanges c.toNat

/-- The characters without the run of `p` at their end. -/
def dropTrailingWhile (p : Char → Bool) (cs : List Char) : List Char :=
  (cs.reverse.dropWhile p).reverse

/-- The characters between the blank ends. -/
def trimChars (cs : List Char) : List Char := dropTrailingWhile isBlank (cs.dropWhile isBlank)

/-- The text without the blank characters at its two ends. -/
def trim (s : String) : String := String.ofList (trimChars s.toList)

/-- A text of blank characters only, the empty text included. -/
def isBlankText (s : String) : Bool := s.toList.all isBlank

/-- The text without the run of `c` at its end. -/
def dropTrailing (c : Char) (s : String) : String :=
  String.ofList (dropTrailingWhile (· == c) s.toList)

/-- The text without one line break at its end. -/
def dropLineBreak (s : String) : String :=
  if s.toList.getLast? = some '\n' then String.ofList s.toList.dropLast else s

example : trim "\u00a0 a b\n\u3000" = "a b" := by decide +kernel
example : isBlankText " \x1c\t" = true ∧ isBlankText "\u200b" = false := by decide +kernel
example : dropLineBreak "/a\n\n" = "/a\n" ∧ dropLineBreak "/a\nb" = "/a\nb" := by decide +kernel
example : dropTrailing '/' "http://f/x//" = "http://f/x" := by decide +kernel

end LogDrain.Text
