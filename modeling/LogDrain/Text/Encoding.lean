/-
  BODY ENCODINGS: the encoding of a JSON text that arrives as bytes, and its characters.

  A byte order mark names the encoding and is taken off.  Without one the encoding follows from
  where the zero bytes lie among the first four, since a JSON text starts with an ASCII character.
  `decodeJson?` gives the characters, or nothing when the bytes are damaged.
-/
import LogDrain.Text.Utf16

namespace LogDrain.Text

/-- The encodings of a JSON text; a wide one has its big or its little end first. -/
inductive Encoding where
  | utf8
  | utf16 (bigEndian : Bool)
  | utf32 (bigEndian : Bool)
  deriving DecidableEq, Repr

namespace Encoding

/-- The encoding that the zero bytes at the start show. -/
def ofZeros : List UInt8 → Encoding
  | a :: b :: c :: d :: _ =>
    if a = 0 then (if b = 0 then .utf32 true else .utf16 true)
    else if b = 0 then (if c = 0 ∧ d = 0 then .utf32 false else .utf16 false)
    else .utf8
  | [a, b] => if a = 0 then .utf16 true else if b = 0 then .utf16 false else .utf8
  | _ => .utf8

/-- The encoding of the bytes, and the bytes after the byte order mark. -/
def detect : List UInt8 → Encoding × List UInt8
  | 0x00 :: 0x00 :: 0xFE :: 0xFF :: rest => (.utf32 true, rest)
  | 0xFF :: 0xFE :: 0x00 :: 0x00 :: rest => (.utf32 false, rest)
  | 0xFE :: 0xFF :: rest => (.utf16 true, rest)
  | 0xFF :: 0xFE :: rest => (.utf16 false, rest)
  | 0xEF :: 0xBB :: 0xBF :: rest => (.utf8, rest)
  | bytes => (ofZeros bytes, bytes)

/-- The number whose digits to the base 256 are the bytes. -/
def number (bytes : List UInt8) : Nat := bytes.foldl (fun n b => n * 0x100 + b.toNat) 0

/-- The units of two bytes each; nothing when a byte is left over. -/
def units16? (bigEndian : Bool) : List UInt8 → Option (List Nat)
  | [] => some []
  | [_] => none
  | a :: b :: rest =>
    (units16? bigEndian rest).map (number (if bigEndian then [a, b] else [b, a]) :: ·)

/-- The code points of four bytes each; nothing when bytes are left over or a number is none. -/
def points32? (bigEndian : Bool) : List UInt8 → Option (List Nat)
  | [] => some []
  | a :: b :: c :: d :: rest =>
    let n := number (if bigEndian then [a, b, c, d] else [d, c, b, a])
    if n < 0x110000 then (points32? bigEndian rest).map (n :: ·) else none
  | _ => none

/-- The characters of bytes in a known encoding. -/
def decode? : Encoding → List UInt8 → Option (List Char)
  | .utf8, bytes => Utf8.allSound (Utf8.scan true none bytes)
  | .utf16 bigEndian, bytes => (units16? bigEndian bytes).map Utf16.chars
  | .utf32 bigEndian, bytes => (points32? bigEndian bytes).map fun ns => ns.map Utf8.charOf

/-- The characters of a JSON text in whatever encoding it comes. -/
def decodeJson? (bytes : List UInt8) : Option (List Char) :=
  let (encoding, rest) := detect bytes
  decode? encoding rest

example : decodeJson? [0xEF, 0xBB, 0xBF, 0x7B, 0x7D] = some ['\x7b', '\x7d'] := by decide +kernel
example : decodeJson? [0x7B, 0x00, 0x7D, 0x00] = some ['\x7b', '\x7d'] := by decide +kernel
example : decodeJson? [0xFF] = none := by decide +kernel

end Encoding

end LogDrain.Text
