/-
  OPERATIONS OF THE GRAPHQL API, each a procedure of one call.

  `query` asks, notes what has to be noted, and stops unless the reply is accepted.  Each operation
  then takes what it wants out of the data: the app or add-on asked for, or a text that has to be
  there.
-/
import LogDrain.Platform.Envelope
import LogDrain.Procedure
import LogDrain.Resource.App

namespace LogDrain.Platform

open Procedure (say ofExcept ofShape)

/-! ## Asking -/

/-- Go on with what a reply says. -/
def conclude : Except Fault Fields → Procedure Fields
  | .ok data => .done data
  | .error (.api (.notFound messages)) => do
    say .debug ("Fly GraphQL not-found error: " ++ messages)
    .stop (.api (.notFound messages))
  | .error fault => .stop fault

/-- Note a fault of the connection and stop with it. -/
def failed (fault : ApiFault) : Procedure Fields := do
  say .error fault.message
  .stop (.api fault)

/-- Go on with what came of the request. -/
def accept : Reply → Procedure Fields
  | .answered status payload => conclude (Envelope.read status payload)
  | .lost .client | .lost .serverTimeout => failed .unreachable
  | .lost .timeout => failed .timedOut
  | .lost .other => .stop .connection

/-- The data that the reply to an operation carries. -/
def query (q : Query) : Procedure Fields := .ask (.query q) accept

/-! ## Looking into the data -/

/-- The object under a key, or stop with the fault. -/
def objectOr (fault : ApiFault) : Json → Procedure Json
  | .obj fields => .done (.obj fields)
  | _ => .stop (.api fault)

/-- The text of what is there, or stop with the fault. -/
def textOfPresent (fault : ApiFault) (v : Json) : Procedure String :=
  if v.isPresent then .done v.display else .stop (.api fault)

/-! ## Operations -/

/-- The app of a name. -/
def app (name : String) : Procedure App := do
  let data ← query (.app name)
  let found ← objectOr (.absent ("app " ++ name)) (Fields.get data "app")
  ofShape (App.ofJson found)

/-- The apps of an organization that carry a role. -/
def appsByRole (role organizationId : String) : Procedure (List App) := do
  let data ← query (.appsByRole role organizationId)
  let nodes ← ofShape ((Fields.get data "apps").memberOfPresent "nodes")
  let entries ← ofShape (nodes.orElse (.arr [])).elements
  ofShape ((Json.objects entries).mapM fun fields => App.ofJson (.obj fields))

/-- A new app. -/
def createApp (organizationId name : String) (role : Option String) (machines : Bool) :
    Procedure App := do
  let data ← query (.createApp organizationId name role machines)
  let created ← ofShape ((Fields.get data "createApp").memberOfPresent "app")
  let created ← objectOr (.noAppCreated name) created
  ofShape (App.ofJson created)

/-- The add-on of a name. -/
def addOn (name : String) : Procedure AddOn := do
  let data ← query (.addOn name)
  let found ← objectOr (.absent ("add-on " ++ name)) (Fields.get data "addOn")
  ofShape (AddOn.ofJson found)

/-- A new add-on. -/
def createAddOn (organizationId name appId addOnType : String) : Procedure AddOn := do
  let data ← query (.createAddOn organizationId name appId addOnType)
  let created ← ofShape ((Fields.get data "createAddOn").memberOfPresent "addOn")
  let created ← objectOr (.noAddOnCreated name) created
  ofShape (AddOn.ofJson created)

/-- A new access token with the rights of a profile. -/
def createToken (name organizationId profile : String) (params : Json) (expiry : Option String) :
    Procedure String := do
  let data ← query (.createToken name organizationId profile params expiry)
  let created := Fields.get data "createLimitedAccessToken"
  let issued ← ofShape (created.memberOfPresent "limitedAccessToken")
  let token ← ofShape (issued.memberOfPresent "token")
  textOfPresent (.noTokenIssued name) token

/-- Write secrets to an app, at least one. -/
def setSecrets (appId : String) (secrets : List Secret) : Procedure Unit := do
  if secrets = [] then .stop (.argument .noSecrets)
  else
    let _ ← query (.setSecrets appId secrets)
    return ()

/-- The code of the region nearest to the asker. -/
def nearestRegion : Procedure String := do
  let data ← query .nearestRegion
  let code ← ofShape ((Fields.get data "nearestRegion").memberOfPresent "code")
  textOfPresent .noRegion code

end LogDrain.Platform
