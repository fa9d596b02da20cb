/-
  SHOWING A VALUE AS TEXT: what a remote value becomes where a text is wanted.

  A string stands for itself.  Every other value is shown as in a listing: `None` for null, `True`
  and `False`, numbers by their shortest text, arrays in brackets and objects in braces with a comma
  and a space between the parts, and strings inside them between quotes.
-/
import LogDrain.Json.Writer
import LogDrain.Text.Quoted

namespace LogDrain.Json

mutual

/-- The value as a part of a listing. -/
def listed : Json → List Char
  | .null => "None".toList
  | .bool b => (if b then "True" else "False").toList
  | .int n => Decimal.intDigits n
  | .real x => x.text.toList
  | .str s => (Text.quoted s).toList
  | .arr [] => ['[', ']']
  | .arr (v :: vs) => '[' :: (listed v ++ listedItems vs)
  | .obj [] => ['\x7b', '\x7d']
  | .obj ((k, v) :: fs) =>
    '\x7b' :: ((Text.quoted k).toList ++ ':' :: ' ' :: listed v ++ listedFields fs)

/-- The items after the first, and the end of the array. -/
def listedItems : List Json → List Char
  | [] => [']']
  | v :: vs => ',' :: ' ' :: (listed v ++ listedItems vs)

/-- The fields after the first, and the end of the object. -/
def listedFields : List (String × Json) → List Char
  | [] => ['\x7d']
  | (k, v) :: fs =>
    ',' :: ' ' :: ((Text.quoted k).toList ++ ':' :: ' ' :: listed v ++ listedFields fs)

end

/-- The value as text. -/
def display : Json → String
  | .str s => s
  | v => String.ofList v.listed

example : display .null = "None" ∧ display (.str "it's") = "it's" := by decide +kernel
example : display (.arr [.int 1, .str "a"]) = "[1, 'a']" := by decide +kernel
example : display (.obj [("k", .null)]) = "\x7b'k': None\x7d" := by decide +kernel

end LogDrain.Json
