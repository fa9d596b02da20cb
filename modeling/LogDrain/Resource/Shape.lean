/-
  READING REMOTE VALUES: the ways in which a value can have the wrong shape.

  A remote value is a JSON value of any shape.  `Json.member` asks it for a field; what is no object
  has none.  `Json.elements` walks it; an array gives its items, an object its keys, a text its
  characters, null nothing, and numbers and truth values cannot be walked.  `optionalText` reads a
  field that has to be a text or null, and collects a fault for every field that is neither.
-/
import LogDrain.Json.Basic

namespace LogDrain

/-- A field of a record that has the wrong type. -/
structure FieldFault where
  kind : String
  path : List String
  message : String
  deriving DecidableEq, Repr

/-- A field that is no text. -/
def FieldFault.noText (field : String) : FieldFault :=
  ⟨"string_type", [field], "Input should be a valid string"⟩

/-- How a remote value can have the wrong shape. -/
inductive ShapeFault where
  /-- A field is asked of what is no object. -/
  | noFields
  /-- A number or a truth value is walked. -/
  | noItems
  /-- An array or an object stands where a code is looked up. -/
  | compoundCode
  /-- Fields of a record have the wrong type. -/
  | wrongFields (record : String) (faults : List FieldFault)
  deriving DecidableEq, Repr

namespace Json

/-- The field of an object; null where it is not there. -/
def member (v : Json) (key : String) : Except ShapeFault Json :=
  match v with
  | .obj fields => .ok (Fields.get fields key)
  | _ => .error .noFields

/-- The field of an object, where nothing stands for an object without fields. -/
def memberOfPresent (v : Json) (key : String) : Except ShapeFault Json :=
  (v.orElse (.obj [])).member key

/-- What a walk over the value meets. -/
def elements : Json → Except ShapeFault (List Json)
  | .null => .ok []
  | .arr items => .ok items
  | .obj fields => .ok (fields.map fun f => .str f.1)
  | .str s => .ok (s.toList.map fun c => .str (String.ofList [c]))
  | .bool _ | .int _ | .real _ => .error .noItems

/-- The objects among the values, as their fields, in order. -/
def objects (vs : List Json) : List Fields := vs.filterMap fields?

/-- A field that has to be a text or null: its text, or the fault. -/
def optionalText (field : String) : Json → Except FieldFault (Option String)
  | .null => .ok none
  | .str s => .ok (some s)
  | _ => .error (.noText field)

end Json

/-- The faults among the readings of a record's fields, in order. -/
def FieldFault.all (readings : List (Except FieldFault (Option String))) : List FieldFault :=
  readings.filterMap fun
    | .error fault => some fault
    | .ok _ => none

end LogDrain
