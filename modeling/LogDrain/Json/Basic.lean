/-
  JSON VALUES.

  Integers are exact and of any size; numbers with a point or an exponent are of the 64 bit format.
  The fields of an object keep their order, and a key stands once: writing a key again changes the
  value and leaves the place (`Fields.put`).

  A value is present unless it is null, false, zero, or an empty text, array or object
  (`Json.isPresent`); an absent field reads as null (`Fields.get`).
-/
import LogDrain.Decimal.Binary64

namespace LogDrain

open Decimal (Binary64)

/-- A JSON value. -/
inductive Json where
  | null
  | bool (value : Bool)
  | int (value : Int)
  | real (value : Binary64)
  | str (value : String)
  | arr (items : List Json)
  | obj (fields : List (String × Json))
  deriving Inhabited

/-- The fields of an object, in order. -/
abbrev Fields := List (String × Json)

/-! ## Fields -/

namespace Fields

/-- The value of a key; null where the key does not stand. -/
def get : Fields → String → Json
  | [], _ => .null
  | (k, v) :: rest, key => if k = key then v else get rest key

/-- The fields with the key set: in its place if it stands, else at the end. -/
def put : Fields → String → Json → Fields
  | [], key, value => [(key, value)]
  | (k, v) :: rest, key, value =>
    if k = key then (k, value) :: rest else (k, v) :: put rest key value

/-- The fields that a run of pairs leaves when each is written after the ones before it. -/
def ofPairs (pairs : List (String × Json)) : Fields :=
  pairs.foldl (fun fields p => fields.put p.1 p.2) []

/-- What was written under a key is read back. -/
theorem get_put_self (fields : Fields) (key : String) (value : Json) :
    (fields.put key value).get key = value := by
  induction fields with
  | nil => simp [put, get]
  | cons p rest ih =>
    by_cases h : p.1 = key
    · simp [put, get, h]
    · simp [put, get, h, ih]

/-- Writing one key leaves the others as they were. -/
theorem get_put_of_ne {key other : String} (fields : Fields) (value : Json) (h : other ≠ key) :
    (fields.put key value).get other = fields.get other := by
  induction fields with
  | nil => simp [put, get, Ne.symm h]
  | cons p rest ih =>
    by_cases hk : p.1 = key
    · simp [put, get, hk, Ne.symm h]
    · by_cases ho : p.1 = other
      · simp [put, get, ho, h]
      · simp [put, get, hk, ho, ih]

end Fields

/-! ## Values -/

namespace Json

/-- Is there something? Null, false, zero and what is empty are nothing. -/
def isPresent : Json → Bool
  | .null => false
  | .bool b => b
  | .int n => n != 0
  | .real x => !x.isZero
  | .str s => s != ""
  | .arr items => !items.isEmpty
  | .obj fields => !fields.isEmpty

/-- The value, or the other one where there is nothing. -/
def orElse (v other : Json) : Json := if v.isPresent then v else other

/-- The fields of an object. -/
def fields? : Json → Option Fields
  | .obj fields => some fields
  | _ => none

/-- A list of texts. -/
def strings (texts : List String) : Json := .arr (texts.map .str)

end Json

end LogDrain
