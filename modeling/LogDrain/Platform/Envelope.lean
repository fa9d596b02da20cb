/-
  THE GRAPHQL ENVELOPE: what a reply says, before anyone looks at its data.

  A reply is a status and a body.  The body is read as JSON; an empty one, and one that cannot be
  read, count as an object without fields.  Then, in this order:

    1. errors, whatever the status: if one of them says that something was not found, that is what
       the reply says, else that the operation was refused;
    2. a status other than 200;
    3. data that is no object.

  Otherwise the reply is accepted, and its data are handed on.

  An error says "not found" by its code, or by its message in lower case.  Entries of the error list
  that are no objects say nothing.
-/
import LogDrain.Fault
import LogDrain.Json.Reader
import LogDrain.Text.Within

namespace LogDrain.Envelope

/-! ## The body -/

/-- The value of undamaged bytes that are a JSON text. -/
def parse? (payload : List UInt8) : Option Json :=
  match Text.Utf8.decode? payload with
  | some cs => (Json.read cs).toOption
  | none => none

/-- The value of a body; what cannot be read has no fields. -/
def body (payload : List UInt8) : Json :=
  if payload = [] then .obj [] else (parse? payload).getD (.obj [])

/-- The bytes of a body as text, damage shown. -/
def details (payload : List UInt8) : String := String.ofList (Text.Utf8.decode payload)

/-- A field of the body; null where the body has no fields. -/
def field (v : Json) (key : String) : Json :=
  match v with
  | .obj fields => Fields.get fields key
  | _ => .null

/-! ## Errors -/

/-- The code of an error that says that something was not found. -/
def notFoundCode : String := "NOT_FOUND"

/-- Does the message say that something was not found? -/
def messageSaysNotFound (message : Json) : Bool :=
  let text := (Text.lower (message.orElse (.str "")).display).toList
  Text.hasWithin "not find".toList text || Text.hasWithin "not found".toList text

/-- Does the code say so?  A code that is an array or an object cannot be looked up. -/
def codeSaysNotFound : Json → Except ShapeFault Bool
  | .arr _ | .obj _ => .error .compoundCode
  | .str code => .ok (code == notFoundCode)
  | _ => .ok false

/-- Does the error say that something was not found? -/
def saysNotFound (error : Fields) : Except ShapeFault Bool :=
  match Fields.get error "extensions" with
  | .obj extensions =>
    (codeSaysNotFound (Fields.get extensions "code")).map
      (· || messageSaysNotFound (Fields.get error "message"))
  | _ => .ok (messageSaysNotFound (Fields.get error "message"))

/-- Does one of the errors say so?  Those after the first that does are not looked at. -/
def anySaysNotFound : List Fields → Except ShapeFault Bool
  | [] => .ok false
  | error :: errors =>
    match saysNotFound error with
    | .ok false => anySaysNotFound errors
    | found => found

/-- The messages of the errors in a row. -/
def messages (errors : List Fields) : String :=
  "; ".intercalate (errors.map fun error => (Fields.get error "message").display)

/-- What a list of errors says. -/
def refusal (errors : List Fields) : Fault :=
  match anySaysNotFound errors with
  | .error fault => .shape fault
  | .ok true => .api (.notFound (messages errors))
  | .ok false => .api (.refused (messages errors))

/-! ## The reply -/

/-- What a reply says: its data, or the fault. -/
def read (status : Int) (payload : List UInt8) : Except Fault Fields :=
  let value := body payload
  let errors := field value "errors"
  if errors.isPresent then
    match errors.elements with
    | .error fault => .error (.shape fault)
    | .ok entries => .error (refusal (Json.objects entries))
  else if status ≠ 200 then .error (.api (.status status (details payload)))
  else
    match field value "data" with
    | .obj data => .ok data
    | _ => .error (.api .noData)

end LogDrain.Envelope
