/-
  COMPLAINTS: what can be wrong with the body of a request.

  A complaint has a kind, a place in the body, words, and what was found there; where a field is
  missing, that is the object which lacks it.  An answer shows what was found along with each
  complaint, so it has to be something that can be shown:

    * a value has finite numbers only, JSON having no words for others; fields whose key begins with
      `_sa` belong to the machinery of a record, are not shown and not looked at;
    * bytes are a text.

  `Content.echoFault?` says what stands in the way.
-/
import LogDrain.Fault
import LogDrain.Json.Finite
import LogDrain.Web.Content

namespace LogDrain.Web

/-! ## What can be shown -/

/-- The key of a field that is not shown. -/
def isInnerKey (key : String) : Bool := "_sa".toList.isPrefixOf key.toList

/-- What keeps the content of a body, or a part of it, from being shown. -/
def Content.echoFault? : Content → Option EchoFault
  | .absent => none
  | .value v => if (v.dropFields isInnerKey).isFinite then none else some .notFinite
  | .raw bytes => (Text.Damage.first? bytes).map .noText

/-- A value of finite numbers can be shown. -/
theorem Content.echoFault?_value {v : Json} (h : v.isFinite = true) :
    (Content.value v).echoFault? = none := by
  simp [echoFault?, Json.isFinite_dropFields isInnerKey v h]

/-! ## Complaints -/

/-- A step of the way to a place in a body: a key, or a character of its text. -/
inductive Step where
  | key (name : String)
  | position (n : Nat)
  deriving DecidableEq, Repr

/-- What is wrong at a place, and what was found there. -/
structure Complaint where
  kind : String
  place : List Step
  message : String
  found : Content

namespace Complaint

/-- A complaint about a place in the body. -/
def about (kind message : String) (path : List String) (found : Content) : Complaint :=
  ⟨kind, (("body" :: path).map .key), message, found⟩

/-- Something has to be there. -/
def missing (path : List String) (found : Content) : Complaint :=
  about "missing" "Field required" path found

/-- It has to be a text. -/
def noText (path : List String) (found : Json) : Complaint :=
  about "string_type" "Input should be a valid string" path (.value found)

/-- It has to have a character. -/
def tooShort (path : List String) : Complaint :=
  about "string_too_short" "String should have at least 1 character" path (.value (.str ""))

/-- It has to be an object. -/
def noObject (path : List String) (found : Json) : Complaint :=
  about "dict_type" "Input should be a valid dictionary" path (.value found)

/-- The whole body has to be an object. -/
def noFields (found : Content) : Complaint :=
  about "model_attributes_type"
    "Input should be a valid dictionary or object to extract fields from" [] found

/-- The body goes wrong at a character, and nothing is found. -/
def malformed (position : Nat) : Complaint :=
  ⟨"json_invalid", [.key "body", .position position], "JSON decode error", .absent⟩

end Complaint

example : (Content.value (.obj [("_sa", .real .nan), ("a", .null)])).echoFault? = none := by
  decide +kernel
example : (Content.value (.obj [("x_sa", .real .nan)])).echoFault? = some .notFinite := by
  decide +kernel
example : (Content.raw [0x41, 0xC3]).echoFault? = some (.noText ⟨1, [0xC3], .cut⟩) := by
  decide +kernel

end LogDrain.Web
