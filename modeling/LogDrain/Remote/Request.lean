/-
  REQUESTS: a call with the settings put in.

  This is the one place where a call meets the settings.  The access token goes into a header and
  nowhere else; the address starts with one of the two bases, and the app and the machine stand in
  it as percent encoded segments.
-/
import LogDrain.Remote.Document
import LogDrain.Settings

namespace LogDrain

open Decimal (Binary64)

/-- A request as it is sent. -/
structure Request where
  method : String
  url : String
  body : Option String
  params : Option (List (String × String))
  headers : List (String × String)
  timeout : Binary64

/-- The header that shows who asks. -/
def Settings.authorization (settings : Settings) : String × String :=
  ("Authorization", "Bearer " ++ settings.accessToken)

/-- The header of a JSON body. -/
def contentHeader : String × String := ("Content-Type", "application/json")

/-- The header that asks for JSON. -/
def acceptHeader : String × String := ("Accept", "application/json")

namespace MachineCall

/-- The body of the request. -/
def body : MachineCall → Option String
  | .launch l => some l.toJson.write
  | _ => none

/-- The parameters of the request. -/
def params : MachineCall → Option (List (String × String))
  | .wait _ state seconds => some [("state", state), ("timeout", Decimal.intText seconds)]
  | _ => none

end MachineCall

/-- The address of an app's machines. -/
def Settings.machinesUrl (settings : Settings) (app : String) (call : MachineCall) : String :=
  settings.machinesBase ++ "/v1/apps/" ++ Text.Percent.encode app ++ call.path

/-- The request of a call. -/
def Call.request (settings : Settings) : Call → Request
  | .query q =>
    { method := "POST", url := settings.graphqlUrl, body := some q.toJson.write, params := none
      headers := [settings.authorization, contentHeader, acceptHeader]
      timeout := settings.timeout }
  | .machines app call =>
    { method := call.method, url := settings.machinesUrl app call, body := call.body
      params := call.params
      headers := [settings.authorization, acceptHeader] ++
        (if call.body.isSome then [contentHeader] else [])
      timeout := settings.timeout }

end LogDrain
