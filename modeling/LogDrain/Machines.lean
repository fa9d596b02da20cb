/-
  OPERATIONS OF THE MACHINES API on one app.

  An app is asked about by its name, which must not be blank (`named`).  A reply is accepted with
  the status 200 or 201; every other status is a fault that shows the body.  A listing that is no
  array lists nothing, and its entries that are no objects are passed over; a launch has to give an
  object.  Every machine read has to have an id.
-/
import LogDrain.Platform.Envelope
import LogDrain.Procedure

namespace LogDrain.Machines

open Procedure (say ofExcept ofShape)

/-! ## Asking -/

/-- The name of an app whose machines can be asked about. -/
def named (app : String) : Procedure String :=
  if Text.isBlankText app then .stop (.argument .blankApp) else .done app

/-- A status that says that it was done. -/
def isAccepted (status : Int) : Bool := status == 200 || status == 201

/-- Go on with what came of the request: the body of an accepted reply. -/
def accept (app : String) (call : MachineCall) : Reply → Procedure (List UInt8)
  | .answered status payload =>
    if isAccepted status then .done payload
    else .stop (.machines app (.status call.action status (Envelope.details payload)))
  | .lost .other => .stop .connection
  | .lost _ => do
    say .error
      ("Machines API request failed (method=" ++ call.method ++ " path=" ++ call.path ++ ")")
    .stop (.machines app .unreachable)

/-- The body of the reply to a call. -/
def ask (app : String) (call : MachineCall) : Procedure (List UInt8) :=
  .ask (.machines app call) (accept app call)

/-! ## Reading -/

/-- The value of a body, with a value for the empty one. -/
def payloadValue? (whenEmpty : Json) (payload : List UInt8) : Option Json :=
  if payload = [] then some whenEmpty else Envelope.parse? payload

/-- The machine of an object with an id. -/
def machine (app : String) (call : MachineCall) (fields : Fields) : Except Fault Machine :=
  if (Fields.get fields "id").isPresent then (Machine.ofJson (.obj fields)).mapError .shape
  else .error (.machines app (.noMachineId call.action))

/-- The machines of a listing. -/
def readList (app : String) (payload : List UInt8) : Except Fault (List Machine) :=
  match payloadValue? (.arr []) payload with
  | none => .error (.machines app .unreadableList)
  | some (.arr items) => (Json.objects items).mapM (machine app .list)
  | some _ => .ok []

/-- The machine of a launch. -/
def readLaunch (app : String) (launch : Launch) (payload : List UInt8) : Except Fault Machine :=
  match payloadValue? (.obj []) payload with
  | some (.obj fields) => machine app (.launch launch) fields
  | _ => .error (.machines app .unreadableLaunch)

/-! ## Operations -/

/-- The machines of the app. -/
def list (app : String) : Procedure (List Machine) := do
  let payload ← ask app .list
  ofExcept (readList app payload)

/-- A new machine of the app. -/
def launch (app : String) (what : Launch) : Procedure Machine := do
  let payload ← ask app (.launch what)
  ofExcept (readLaunch app what payload)

/-- Restart a machine. -/
def restart (app machineId : String) : Procedure Unit := do
  if machineId = "" then .stop (.argument .emptyMachineId)
  else
    let _ ← ask app (.restart machineId)
    return ()

/-- Wait until a machine is in a state, for so many seconds at most. -/
def wait (app machineId state : String) (seconds : Int) : Procedure Unit := do
  let _ ← ask app (.wait machineId state seconds)
  return ()

end LogDrain.Machines
