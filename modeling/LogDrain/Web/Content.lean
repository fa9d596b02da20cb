/-
  THE BODY OF A WEB REQUEST: is it JSON, and what does it hold?

  A body is read as JSON only if the content type says so: the part before a semicolon, trimmed and
  in lower case, is `application/json` or an application type that ends in `+json`.  A content type
  arrives as bytes, and each byte counts as one character; so a blank beyond ASCII, which takes
  several bytes, is not trimmed away.

  An empty body is absent whatever its type.  A text that is no JSON is refused with the place where
  it goes wrong; bytes that are no text, and integers that are too long, are refused without one.
  A body of another type is kept as its bytes.
-/
import LogDrain.Json.Reader
import LogDrain.Text.Encoding
import LogDrain.Text.LowerCase
import LogDrain.Text.Blank

namespace LogDrain.Web

/-! ## Content types -/

/-- The bytes of a text, each as one character. -/
def byteChars (s : String) : List Char :=
  (Text.Utf8.encode s.toList).map fun b => Char.ofNat b.toNat

/-- The media type: what stands before the parameters, trimmed and in lower case. -/
def mediaType (contentType : String) : List Char :=
  let before := (byteChars contentType).takeWhile (· != ';')
  (Text.lower (String.ofList (Text.trimChars before))).toList

/-- Does the media type say that the body is JSON? -/
def isJsonType (media : List Char) : Bool :=
  let subtype := (media.dropWhile (· != '/')).drop 1
  media.takeWhile (· != '/') == "application".toList && !subtype.contains '/'
    && (subtype == "json".toList || "+json".toList.isSuffixOf subtype)

/-! ## Bodies -/

/-- What a body holds. -/
inductive Content where
  | absent
  | value (v : Json)
  | raw (bytes : List UInt8)

/-- Why a body is refused: it is no JSON from some character on, or it cannot be read at all. -/
inductive ContentFault where
  | malformed (position : Nat)
  | unreadable
  deriving DecidableEq, Repr

/-- The value of a body that is said to be JSON. -/
def readJson (body : List UInt8) : Except ContentFault Json :=
  match Text.Encoding.decodeJson? body with
  | none => .error .unreadable
  | some cs =>
    match Json.read cs with
    | .ok v => .ok v
    | .error (.malformed position) => .error (.malformed position)
    | .error .integerTooLong => .error .unreadable

/-- What the body holds, given its content type. -/
def Content.read (contentType : Option String) (body : List UInt8) : Except ContentFault Content :=
  if body = [] then .ok .absent
  else
    match contentType with
    | none => .ok (.raw body)
    | some t => if isJsonType (mediaType t) then (readJson body).map .value else .ok (.raw body)

example : isJsonType (mediaType "application/json; charset=utf-8") = true := by decide +kernel
example : isJsonType (mediaType " APPLICATION/vnd.api+JSON") = true := by decide +kernel
example : isJsonType (mediaType "application/json/x") = false := by decide +kernel
example : isJsonType (mediaType "text/json") = false := by decide +kernel
example : isJsonType (mediaType "\x1capplication/json\n") = true := by decide +kernel
example : isJsonType (mediaType "application/json\u00a0") = false := by decide +kernel

end LogDrain.Web
