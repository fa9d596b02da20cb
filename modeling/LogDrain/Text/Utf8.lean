/-
  UTF-8: characters as bytes and back.

  Decoding is one walk over the bytes.  Its state is what the sequence begun still expects: how many
  bytes, in which interval the next one lies, and the value so far.  A byte that does not fit ends
  the sequence as one piece of damage and is then looked at afresh, so damage is reported once per
  longest well-formed beginning:

    * `scan`     gives the characters, `none` standing for a piece of damage;
    * `decode?`  is for readers that refuse damage;
    * `decode`   is for readers that show it, as the replacement character.

  `scan` takes a flag that lets the halves of a surrogate pair through, as the readers of a request
  body do.  A half stands for no character, and becomes the replacement character.
-/

namespace LogDrain.Text.Utf8

/-- Stands for what is no character. -/
def replacement : Char := '\uFFFD'

/-! ## Writing -/

/-- The bytes of one character. -/
def encodeChar (c : Char) : List UInt8 :=
  let n := c.toNat
  if n < 0x80 then [UInt8.ofNat n]
  else if n < 0x800 then [UInt8.ofNat (0xC0 + n / 0x40), UInt8.ofNat (0x80 + n % 0x40)]
  else if n < 0x10000 then
    [UInt8.ofNat (0xE0 + n / 0x1000), UInt8.ofNat (0x80 + n / 0x40 % 0x40),
     UInt8.ofNat (0x80 + n % 0x40)]
  else
    [UInt8.ofNat (0xF0 + n / 0x40000), UInt8.ofNat (0x80 + n / 0x1000 % 0x40),
     UInt8.ofNat (0x80 + n / 0x40 % 0x40), UInt8.ofNat (0x80 + n % 0x40)]

/-- The bytes of a text. -/
def encode (cs : List Char) : List UInt8 := cs.flatMap encodeChar

/-! ## Reading -/

/-- The character of a code point; the half of a surrogate pair is none. -/
def charOf (n : Nat) : Char := if h : n.isValidChar then Char.ofNatAux n h else replacement

/-- What a sequence begun still expects: this many bytes, the next one from `low` to `high`; the
    bits so far are `value`. -/
structure Expecting where
  count : Nat
  value : Nat
  low : Nat
  high : Nat

/-- What a byte brings: the pieces that it completes, and what is expected after it. -/
abbrev Step := List (Option Char) × Option Expecting

/-- A byte that starts afresh; `halves` lets surrogate halves through. -/
def fresh (halves : Bool) (n : Nat) : Step :=
  if n < 0x80 then ([some (charOf n)], none)
  else if n < 0xC2 then ([none], none)
  else if n < 0xE0 then ([], some ⟨1, n - 0xC0, 0x80, 0xBF⟩)
  else if n = 0xE0 then ([], some ⟨2, 0, 0xA0, 0xBF⟩)
  else if n = 0xED then ([], some ⟨2, 0xD, 0x80, if halves then 0xBF else 0x9F⟩)
  else if n < 0xF0 then ([], some ⟨2, n - 0xE0, 0x80, 0xBF⟩)
  else if n = 0xF0 then ([], some ⟨3, 0, 0x90, 0xBF⟩)
  else if n < 0xF4 then ([], some ⟨3, n - 0xF0, 0x80, 0xBF⟩)
  else if n = 0xF4 then ([], some ⟨3, 4, 0x80, 0x8F⟩)
  else ([none], none)

/-- A byte in a sequence: it goes on with it, or the sequence is damage and the byte starts
    afresh. -/
def step (halves : Bool) : Option Expecting → Nat → Step
  | none, n => fresh halves n
  | some e, n =>
    if e.low ≤ n ∧ n ≤ e.high then
      let value := e.value * 0x40 + (n - 0x80)
      if e.count = 1 then ([some (charOf value)], none)
      else ([], some ⟨e.count - 1, value, 0x80, 0xBF⟩)
    else
      let (pieces, next) := fresh halves n
      (none :: pieces, next)

/-- The characters of the bytes, `none` for a piece of damage. -/
def scan (halves : Bool) : Option Expecting → List UInt8 → List (Option Char)
  | none, [] => []
  | some _, [] => [none]
  | state, b :: bs =>
    let (pieces, next) := step halves state b.toNat
    pieces ++ scan halves next bs

/-- All of the characters, if there is no damage. -/
def allSound : List (Option Char) → Option (List Char)
  | [] => some []
  | none :: _ => none
  | some c :: rest => (allSound rest).map (c :: ·)

/-- The text of undamaged bytes. -/
def decode? (bytes : List UInt8) : Option (List Char) := allSound (scan false none bytes)

/-- The text of any bytes, each piece of damage shown as the replacement character. -/
def decode (bytes : List UInt8) : List Char :=
  (scan false none bytes).map (·.getD replacement)

example : decode? (encode "aé€😀".toList) = some "aé€😀".toList := by decide +kernel
example : decode? [0xED, 0xA0, 0x80] = none := by decide +kernel
example : (decode [0xED, 0xA0, 0x80]).length = 3 := by decide +kernel
example : decode [0xF0, 0x9F, 0x98, 0x41] = [replacement, 'A'] := by decide +kernel

end LogDrain.Text.Utf8
