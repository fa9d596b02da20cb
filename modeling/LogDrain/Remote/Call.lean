/-
  CALLS: everything that is ever asked of the two APIs.

  A `Query` is one operation of the GraphQL API, a `MachineCall` one of the Machines API, which is
  asked about one app at a time.  A call says what is asked and nothing about where and by whom: the
  addresses, the access token and the time limit come in when it is put into a request.
-/
import LogDrain.Resource.AddOn
import LogDrain.Resource.Machine
import LogDrain.Text.Percent

namespace LogDrain

/-- An operation of the GraphQL API. -/
inductive Query where
  | app (name : String)
  | appsByRole (role organizationId : String)
  | createApp (organizationId name : String) (role : Option String) (machines : Bool)
  | addOn (name : String)
  | createAddOn (organizationId name appId addOnType : String)
  | createToken (name organizationId profile : String) (params : Json) (expiry : Option String)
  | setSecrets (appId : String) (secrets : List Secret)
  | nearestRegion

/-- An operation of the Machines API on one app. -/
inductive MachineCall where
  | list
  | launch (launch : Launch)
  | restart (machineId : String)
  | wait (machineId state : String) (seconds : Int)

/-- A call to one of the two. -/
inductive Call where
  | query (query : Query)
  | machines (app : String) (call : MachineCall)

/-! ## How a reply comes about -/

/-- How a request can be lost. -/
inductive Loss where
  | client
  | timeout
  | serverTimeout
  | other
  deriving DecidableEq, Repr

/-- What comes of a request: a status with a body, or nothing. -/
inductive Reply where
  | answered (status : Int) (payload : List UInt8)
  | lost (loss : Loss)
  deriving DecidableEq, Repr

/-! ## Machine calls in words and as paths -/

namespace MachineCall

/-- The call in words. -/
def action : MachineCall → String
  | .list => "list machines"
  | .launch _ => "launch machine"
  | .restart id => "restart machine " ++ id
  | .wait id state _ => "wait for machine " ++ id ++ " to be " ++ state

/-- The request method. -/
def method : MachineCall → String
  | .list | .wait .. => "GET"
  | .launch _ | .restart _ => "POST"

/-- The path below the app. -/
def path : MachineCall → String
  | .list | .launch _ => "/machines"
  | .restart id => "/machines/" ++ Text.Percent.encode id ++ "/restart"
  | .wait id _ _ => "/machines/" ++ Text.Percent.encode id ++ "/wait"

end MachineCall

end LogDrain
