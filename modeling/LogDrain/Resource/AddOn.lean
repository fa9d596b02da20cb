/-
  ADD-ONS AND SECRETS.

  An add-on's token is the empty text where the remote side gives none.  Its id has to be a text or
  null.
-/
import LogDrain.Json.Display
import LogDrain.Resource.Shape

namespace LogDrain

/-- An add-on and its access token. -/
structure AddOn where
  id : Option String
  name : String
  token : String
  deriving DecidableEq, Repr

/-- A secret to be written to an app. -/
structure Secret where
  key : String
  value : String
  deriving DecidableEq, Repr

/-- The add-on that a value describes. -/
def AddOn.ofJson (v : Json) : Except ShapeFault AddOn := do
  let id ← v.member "id"
  let name ← v.member "name"
  let token ← v.member "token"
  match id.optionalText "id" with
  | .ok id => return { id, name := name.display, token := (token.orElse (.str "")).display }
  | .error fault => throw (.wrongFields "AddOn" [fault])

/-- The secret as a value. -/
def Secret.toJson (s : Secret) : Json := .obj [("key", .str s.key), ("value", .str s.value)]

end LogDrain
