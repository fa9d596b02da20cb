/-
  FAULTS: everything that can stop a procedure, as causes.

  A cause says what happened and holds what the message needs.  Two views of it are taken:

    * `Fault.kind`     is the class by which a caller decides what to do, such as whether something
                       was not found or the operator has to answer differently;
    * `Fault.message`  is the cause in words.

  `Fault.report` is both together.
-/
import LogDrain.Answers
import LogDrain.Remote.Call
import LogDrain.Settings
import LogDrain.Text.Damage

namespace LogDrain

/-- The classes of faults. -/
inductive FaultKind where
  /-- The GraphQL API failed or refused. -/
  | api
  /-- Either API says that something is not there. -/
  | notFound
  /-- The Machines API failed or refused. -/
  | machines
  /-- The operator's answers do not do. -/
  | answers
  /-- A provider has no kind of add-on. -/
  | addOnType
  /-- The environment lacks a setting. -/
  | settings
  /-- Something is given that cannot be used, such as nothing where something is needed. -/
  | argument
  /-- Bytes are to be text and are none. -/
  | encoding
  /-- The service is not in a state to answer. -/
  | state
  /-- A connection broke in a way that is not provided for. -/
  | connection
  /-- A field is asked of what has no fields. -/
  | noFields
  /-- What cannot be walked is walked, or what is no code is looked up as one. -/
  | noItems
  /-- Fields of a record have the wrong type. -/
  | wrongFields (record : String) (faults : List FieldFault)
  deriving DecidableEq, Repr

/-! ## The causes, by where they arise -/

/-- What goes wrong with the GraphQL API. -/
inductive ApiFault where
  | unreachable
  | timedOut
  /-- The reply carries errors that say that something was not found; their messages. -/
  | notFound (messages : String)
  /-- The reply carries other errors; their messages. -/
  | refused (messages : String)
  | status (code : Int) (details : String)
  | noData
  /-- The reply has no object for the app or add-on asked for. -/
  | absent (thing : String)
  | noAppCreated (name : String)
  | noAddOnCreated (name : String)
  | noTokenIssued (name : String)
  | noRegion
  /-- The add-on has no access token. -/
  | noAddOnToken (name : String)
  deriving DecidableEq, Repr

/-- What goes wrong with the Machines API. -/
inductive MachinesFault where
  | unreachable
  | status (action : String) (code : Int) (details : String)
  | unreadableList
  | unreadableLaunch
  | noMachineId (action : String)
  deriving DecidableEq, Repr

/-- What a procedure is called with and cannot do with. -/
inductive ArgumentFault where
  | blankApp
  | emptyMachineId
  | noSecrets
  deriving DecidableEq, Repr

/-- What the service finds in place of its open session. -/
inductive SessionFault where
  | missing
  | foreign
  deriving DecidableEq, Repr

/-- Why what was received cannot be shown in an answer. -/
inductive EchoFault where
  /-- It holds a number that is not finite. -/
  | notFinite
  /-- It is bytes, and they are no text. -/
  | noText (damage : Text.Damage)
  deriving DecidableEq, Repr

/-- Whatever can stop a procedure. -/
inductive Fault where
  | settings (fault : SettingsFault)
  | answers (fault : AnswersFault)
  | api (fault : ApiFault)
  | machines (app : String) (fault : MachinesFault)
  | addOnType (slug : String)
  | shape (fault : ShapeFault)
  | argument (fault : ArgumentFault)
  | session (fault : SessionFault)
  | echo (fault : EchoFault)
  | connection
  deriving DecidableEq, Repr

/-! ## Kinds -/

/-- The class of a fault with the GraphQL API. -/
def ApiFault.kind : ApiFault → FaultKind
  | .notFound _ | .absent _ => .notFound
  | _ => .api

/-- The class of a fault with the Machines API: a status of 404 says that something is not there. -/
def MachinesFault.kind : MachinesFault → FaultKind
  | .status _ code _ => if code = 404 then .notFound else .machines
  | _ => .machines

/-- The class of a wrong shape. -/
def ShapeFault.kind : ShapeFault → FaultKind
  | .noFields => .noFields
  | .noItems | .compoundCode => .noItems
  | .wrongFields record faults => .wrongFields record faults

/-- The class of what cannot be shown. -/
def EchoFault.kind : EchoFault → FaultKind
  | .notFinite => .argument
  | .noText _ => .encoding

/-- The class of a fault. -/
def Fault.kind : Fault → FaultKind
  | .settings _ => .settings
  | .answers _ => .answers
  | .api fault => fault.kind
  | .machines _ fault => fault.kind
  | .addOnType _ => .addOnType
  | .shape fault => fault.kind
  | .argument _ => .argument
  | .session _ => .state
  | .echo fault => fault.kind
  | .connection => .connection

/-! ## Messages -/

/-- The text, or another one for the empty text. -/
def textOr (text fallback : String) : String := if text = "" then fallback else text

/-- The fault in words. -/
def ApiFault.message : ApiFault → String
  | .unreachable => "Fly GraphQL request failed"
  | .timedOut => "Fly GraphQL request timed out"
  | .notFound messages => textOr messages "Resource not found"
  | .refused messages => textOr messages "Fly GraphQL request returned errors"
  | .status code details =>
    Text.trim ("Unexpected Fly GraphQL response HTTP " ++ Decimal.intText code ++ " " ++ details)
  | .noData => "Fly GraphQL response is missing 'data'"
  | .absent thing => "Could not find " ++ thing
  | .noAppCreated name => s!"CreateApp returned no app (name={name})"
  | .noAddOnCreated name => s!"CreateAddOn returned no add-on (name={name})"
  | .noTokenIssued name => s!"CreateLimitedAccessToken returned no token (name={name})"
  | .noRegion => "GetNearestRegion returned no region code"
  | .noAddOnToken name => s!"Add-on {name} has no access token"

/-- The fault in words, for the app that was asked about. -/
def MachinesFault.message (app : String) : MachinesFault → String
  | .unreachable => s!"Machines API request failed (app={app})"
  | .status action code details =>
    Text.trim ("Failed to " ++ action ++ " (app=" ++ app ++ ") HTTP " ++ Decimal.intText code ++ " "
      ++ details)
  | .unreadableList => s!"Invalid machine list payload (app={app})"
  | .unreadableLaunch => s!"Invalid launch payload (app={app})"
  | .noMachineId action => s!"Machines API returned a machine without an id ({action}, app={app})"

/-- The fault in words. -/
def ArgumentFault.message : ArgumentFault → String
  | .blankApp => "app_name must be provided"
  | .emptyMachineId => "machine_id must be provided"
  | .noSecrets => "secrets must not be empty"

/-- The fault in words. -/
def SessionFault.message : SessionFault → String
  | .missing => "HTTP session not initialized (app.state.http_session)"
  | .foreign => "Unexpected http_session type"

/-- The fault in words. -/
def EchoFault.message : EchoFault → String
  | .notFinite => "Out of range float values are not JSON compliant"
  | .noText damage => damage.message

/-- The fault in words; a wrong shape is told by its class alone. -/
def Fault.message : Fault → String
  | .settings fault => fault.message
  | .answers fault => fault.message
  | .api fault => fault.message
  | .machines app fault => fault.message app
  | .addOnType slug => "Provider " ++ Text.quoted slug ++ " cannot be provisioned as an add-on"
  | .shape _ => ""
  | .argument fault => fault.message
  | .session fault => fault.message
  | .echo fault => fault.message
  | .connection => "socket gone"

/-- What a caller learns of a fault. -/
structure Report where
  kind : FaultKind
  message : String
  deriving DecidableEq, Repr

/-- The class and the words of a fault. -/
def Fault.report (fault : Fault) : Report := ⟨fault.kind, fault.message⟩

end LogDrain
