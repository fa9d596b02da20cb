/-
  A REQUEST TO SHIP LOGS, read from a body.

  The request is an object with the name of an app, which is not empty, and may have a provider,
  a text or null, and secrets, an object of texts.  Other fields are passed over.  Everything that
  is wrong is told at once, each with its place in the body, in the order app, provider, secrets,
  and the secrets in the order of the body.
-/
import LogDrain.Web.Complaint

namespace LogDrain.Web

/-- A request to ship logs. -/
structure ShipRequest where
  appName : String
  provider : Option String
  secrets : List (String × String)
  deriving DecidableEq, Repr

namespace ShipRequest

/-- A reading, or all that is wrong with it. -/
abbrev Checked (α : Type) := Except (List Complaint) α

/-- The complaints of a reading. -/
def complaints {α : Type} : Checked α → List Complaint
  | .ok _ => []
  | .error cs => cs

/-- The value under a key that stands in the object. -/
def given? (fields : Fields) (key : String) : Option Json := fields.lookup key

/-- The name of the app. -/
def readAppName (fields : Fields) : Checked String :=
  match given? fields "app_name" with
  | none => .error [.missing ["app_name"] (.value (.obj fields))]
  | some (.str s) => if s = "" then .error [.tooShort ["app_name"]] else .ok s
  | some v => .error [.noText ["app_name"] v]

/-- The provider; none is the same as null. -/
def readProvider (fields : Fields) : Checked (Option String) :=
  match given? fields "provider" with
  | none | some .null => .ok none
  | some (.str s) => .ok (some s)
  | some v => .error [.noText ["provider"] v]

/-- The secrets of an object. -/
def readValues : Fields → Checked (List (String × String))
  | [] => .ok []
  | (key, v) :: rest =>
    match v, readValues rest with
    | .str s, .ok values => .ok ((key, s) :: values)
    | .str _, .error wrong => .error wrong
    | _, values => .error (.noText ["secrets", key] v :: complaints values)

/-- The secrets; none are the same as an empty object. -/
def readSecrets (fields : Fields) : Checked (List (String × String)) :=
  match given? fields "secrets" with
  | none => .ok []
  | some (.obj values) => readValues values
  | some v => .error [.noObject ["secrets"] v]

/-- The request that an object is. -/
def ofFields (fields : Fields) : Checked ShipRequest :=
  match readAppName fields, readProvider fields, readSecrets fields with
  | .ok appName, .ok provider, .ok secrets => .ok { appName, provider, secrets }
  | appName, provider, secrets =>
    .error (complaints appName ++ complaints provider ++ complaints secrets)

/-- The request that a body holds. -/
def ofContent : Content → Checked ShipRequest
  | .absent => .error [.missing [] .absent]
  | .value (.obj fields) => ofFields fields
  | content => .error [.noFields content]

example : ofFields [("app_name", .str "")] = .error [.tooShort ["app_name"]] := rfl
example : (complaints (ofFields [("provider", .int 5),
      ("secrets", .obj [("a", .null), ("b", .str ""), ("c", .int 1)])])).map (·.place.drop 1)
    = [[.key "app_name"], [.key "provider"], [.key "secrets", .key "a"],
        [.key "secrets", .key "c"]] := rfl

end ShipRequest

end LogDrain.Web
