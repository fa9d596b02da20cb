/-
  THE WEB SERVICE: what it answers.

  Three paths are served, each with one method: a greeting, the list of providers, and shipping
  logs.  One line break at the end of a path does not count.  An answer to the last is decided by
  the first of these that fails:

    1. the body can be read;
    2. the environment holds the settings, which are read afresh for every request;
    3. the service has an open session;
    4. the body is a request to ship logs;
    5. the setup runs to its end.

  A fault becomes an answer by its kind (`refuse`): the operator's own faults are 400, a missing
  setting 503, what is not found 404, a failure of the remote side 502.  Any other fault is not
  told; the answer is 500, and the fault is raised.
-/
import LogDrain.Setup.Ship
import LogDrain.Web.ShipRequest

namespace LogDrain.Web

open Procedure (say)

/-- The body of an answer. -/
inductive AnswerBody where
  | json (v : Json)
  | text (s : String)

/-- An answer, and the fault that was raised instead of being told. -/
structure Answer where
  status : Nat
  body : AnswerBody
  raised : Option Report

/-- A request to the service. -/
structure Request where
  method : String
  path : String
  contentType : Option String
  body : List UInt8

/-- The path that a request is for: one line break at the end does not count. -/
def Request.target (r : Request) : String := Text.dropLineBreak r.path

/-- What the service holds to send its own requests with. -/
inductive Session where
  | ready
  | missing
  | foreign
  deriving DecidableEq, Repr

/-! ## Answers -/

namespace Answer

/-- An answer with a JSON body. -/
def ofJson (status : Nat) (v : Json) : Answer := ⟨status, .json v, none⟩

/-- An answer that gives a reason. -/
def detail (status : Nat) (message : String) : Answer :=
  ofJson status (.obj [("detail", .str message)])

/-- The answer to a path that is not served. -/
def notFound : Answer := detail 404 "Not Found"

/-- The answer to a method that a path is not served with. -/
def wrongMethod : Answer := detail 405 "Method Not Allowed"

/-- The answer that hides a fault. -/
def hidden (report : Report) : Answer := ⟨500, .text "Internal Server Error", some report⟩

end Answer

/-- A step as a value. -/
def Step.toJson : Step → Json
  | .key name => .str name
  | .position n => .int n

/-- A complaint as a value. -/
def Complaint.toJson (c : Complaint) : Json :=
  .obj [("type", .str c.kind), ("loc", .arr (c.place.map Step.toJson)), ("msg", .str c.message)]

/-- The answer to a body that is no request: what is wrong, unless what was found cannot be
    shown. -/
def Answer.complaints (wrong : List Complaint) : Answer :=
  match wrong.findSome? (·.found.echoFault?) with
  | some fault => hidden (Fault.echo fault).report
  | none => ofJson 422 (.arr (wrong.map Complaint.toJson))

/-- The answer to a body that cannot be read. -/
def Answer.ofContentFault : ContentFault → Answer
  | .malformed position => complaints [.malformed position]
  | .unreadable => detail 400 "There was an error parsing the body"

/-! ## Faults as answers -/

/-- Answer a fault by its kind. -/
def refuse (report : Report) : Procedure Answer :=
  match report.kind with
  | .answers | .addOnType => .done (.detail 400 report.message)
  | .settings => do
    say .error ("Fly API is not configured: " ++ report.message)
    return .detail 503 report.message
  | .notFound => .done (.detail 404 report.message)
  | .api | .machines => .done (.detail 502 report.message)
  | _ => .done (.hidden report)

/-- What a setup did as a value. -/
def summaryJson (s : Setup.Summary) : Json :=
  .obj [("app_name", .str s.targetApp), ("provider", .str s.provider),
        ("shipper_app_id", .str s.shipperAppId), ("shipper_app_name", .str s.shipperAppName),
        ("add_on_provisioned", .bool s.addOnProvisioned),
        ("secrets_written", .strings s.secretsWritten)]

/-- Answer what came of a setup. -/
def conclude : Except Fault Setup.Summary → Procedure Answer
  | .ok summary => .done (.ofJson 200 (summaryJson summary))
  | .error fault => refuse fault.report

/-! ## Shipping logs -/

/-- Run the setup that a request asks for. -/
def runSetup (env : Environment) (r : ShipRequest) : Procedure Answer := do
  let answers := Answers.of r.provider r.secrets
  conclude (← (Setup.ship (Setup.shipperImage env) r.appName answers).attempt)

/-- The setting or the session that is lacking, if one is. -/
def lacking? (env : Environment) (session : Session) : Option Fault :=
  match Settings.read .usual env, session with
  | .error fault, _ => some (.settings fault)
  | .ok _, .missing => some (.session .missing)
  | .ok _, .foreign => some (.session .foreign)
  | .ok _, .ready => none

/-- Answer a request to ship logs. -/
def shipLogs (env : Environment) (session : Session) (request : Request) : Procedure Answer :=
  match Content.read request.contentType request.body with
  | .error fault => .done (.ofContentFault fault)
  | .ok content =>
    match lacking? env session with
    | some fault => refuse fault.report
    | none =>
      match ShipRequest.ofContent content with
      | .error wrong => .done (.complaints wrong)
      | .ok r => runSetup env r

/-! ## The other paths -/

/-- The greeting. -/
def greeting : Json :=
  .obj [("message", .str "Hello World! Log shipper provisioning is running.")]

/-- A provider as it is listed. -/
def providerJson (p : Provider) : Json :=
  .obj [("slug", .str p.slug), ("name", .str p.name), ("auto", .bool p.auto),
        ("required_vars", .strings p.requiredVars), ("optional_vars", .strings p.optionalVars)]

/-- The list of providers. -/
def providerList : Json :=
  .obj [("count", .int Provider.catalog.length),
    ("providers", .arr (Provider.catalog.map providerJson))]

/-- The paths that are served beside shipping logs, with what is read there. -/
def pages : List (String × Json) := [("/", greeting), ("/logs/providers", providerList)]

/-- The path for shipping logs. -/
def shipPath : String := "/logs/ship"

/-- The paths under which the description of the service is read.  The description is made
    elsewhere; here it is only known that nothing else can be done with it. -/
def descriptionPaths : List String := ["/docs", "/docs/oauth2-redirect", "/redoc", "/openapi.json"]

/-- The answer to a request that no page and no action answers. -/
def refusePath (request : Request) : Answer :=
  if descriptionPaths.contains request.target ∧ request.method ≠ "GET" ∧
    request.method ≠ "HEAD" then
    .wrongMethod
  else .notFound

/-- Answer a request. -/
def answer (env : Environment) (session : Session) (request : Request) : Procedure Answer :=
  if request.target = shipPath then
    if request.method = "POST" then shipLogs env session request else .done .wrongMethod
  else
    match pages.lookup request.target with
    | some page => .done (if request.method = "GET" then .ofJson 200 page else .wrongMethod)
    | none => .done (refusePath request)

/-! ## The life of a service -/

/-- What a service did: whether it opened a session of its own when it started, what it answered,
    and whether it closed that session when it stopped. -/
structure Life (σ : Type) where
  opened : Bool
  answers : List (Procedure.Outcome σ Answer)
  closed : Bool
  state : σ

/-- Start the service, answer the requests in turn with the given session in place, and stop it.
    Its own session is opened and closed whatever is answered between. -/
def serve {σ : Type} (respond : σ → Call → Reply × σ) (env : Environment) (session : Session)
    (requests : List Request) (state : σ) : Life σ :=
  let (answers, state) := Procedure.runEach respond (requests.map (answer env session)) state
  { opened := true, answers, closed := true, state }

end LogDrain.Web
