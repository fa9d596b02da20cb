/-
  LOWER CASE: the full lower case form of a text.

  Every character is mapped on its own, with two exceptions that need more than one character:

    * the dotted capital I becomes an i and a combining dot, the one mapping to two characters;
    * a capital sigma becomes the final form at the end of a word and the medial form elsewhere.
      It ends a word when the nearest character before it that is not passed over is a letter with
      case, and the nearest such character after it is not.

  The walk carries the first half of the sigma rule as a flag: "the last character not passed over
  was a letter with case".
-/
import LogDrain.Text.CaseTable

namespace LogDrain.Text

/-! ## One character -/

/-- Does the run map `n`? -/
def CaseRun.holds (r : CaseRun) (n : Nat) : Bool :=
  r.first ≤ n && n ≤ r.last && (n - r.first) % r.step == 0

/-- The code point that the rising runs map `n` to; a code point in no run stands for itself. -/
def CaseRun.apply : List CaseRun → Nat → Nat
  | [], n => n
  | r :: later, n =>
    if n < r.first then n
    else if r.holds n then ((n : Int) + r.shift).toNat
    else apply later n

/-- The lower case form of one character, where no neighbour has a say. -/
def lowerChar (c : Char) : List Char :=
  if c = 'İ' then ['i', '\u0307'] else [Char.ofNat (CaseRun.apply lowerRuns c.toNat)]

/-! ## The end of a word -/

/-- A character that the search for a neighbouring letter passes over. -/
def isCaseIgnorable (c : Char) : Bool := CodeRange.anyHolds caseIgnorableRanges c.toNat

/-- A letter with case. -/
def isCased (c : Char) : Bool := CodeRange.anyHolds casedRanges c.toNat

/-- Is the nearest character that is not passed over a letter with case? -/
def startsCased (cs : List Char) : Bool :=
  match cs.dropWhile isCaseIgnorable with
  | [] => false
  | c :: _ => isCased c

/-- The flag after `c`: a character that is passed over leaves it as it was. -/
def casedAfter (before : Bool) (c : Char) : Bool :=
  if isCaseIgnorable c then before else isCased c

/-- The lower case form of what follows, given the flag so far. -/
def lowerFrom : Bool → List Char → List Char
  | _, [] => []
  | before, c :: cs =>
    (if c = 'Σ' then [if before && !startsCased cs then 'ς' else 'σ'] else lowerChar c)
      ++ lowerFrom (casedAfter before c) cs

/-- The lower case form of a text. -/
def lower (s : String) : String := String.ofList (lowerFrom false s.toList)

example : lower "AWS S3" = "aws s3" := by decide +kernel
example : lower "ΑΣ ΑΣΑ Σ" = "ας ασα σ" := by decide +kernel
example : lower "İÉẞ" = "i\u0307éß" := by decide +kernel

end LogDrain.Text
