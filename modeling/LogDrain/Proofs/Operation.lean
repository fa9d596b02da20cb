/-
  OPERATIONS AND REPLIES: what a client makes of one reply.

  Each operation of the two clients asks one call (`asksOnce_app` and the others), so what comes of
  it is a function of the reply, `Procedure.given`.  Two functions start every such reading:
  `dataOf` for the GraphQL API and `bodyOf` for the Machines API.

  Turned around, every call belongs to the operation that asks it (`Call.operation`), and an
  exchange is refused or accepted by what that operation makes of the reply (`refusal?`,
  `IsAccepted`).  This is the notion by which runs are described: "no request follows a refused
  reply" speaks of exchanges only.

  A client looks at one reply at a time and remembers none.  So after this module a client is a
  family of functions of a reply, and everything that is said of several replies is said of the
  procedures that put operations together.
-/
import LogDrain.Machines
import LogDrain.Platform.Operations
import LogDrain.Proofs.Exchange

namespace LogDrain

open Procedure

/-! ## The start of every reading

  `dataOf` and `bodyOf` are pure functions of a reply.  Two laws, `given_query` and `given_ask`,
  say that a client starts with them, and after these no proof unfolds a client again. -/

/-- The data of a reply of the GraphQL API. -/
def Platform.dataOf : Reply → Except Fault Fields
  | .answered status payload => Envelope.read status payload
  | .lost .client | .lost .serverTimeout => .error (.api .unreachable)
  | .lost .timeout => .error (.api .timedOut)
  | .lost .other => .error .connection

/-- The body of a reply of the Machines API. -/
def Machines.bodyOf (app : String) (call : MachineCall) : Reply → Except Fault (List UInt8)
  | .answered status payload =>
    if isAccepted status then .ok payload
    else .error (.machines app (.status call.action status (Envelope.details payload)))
  | .lost .other => .error .connection
  | .lost _ => .error (.machines app .unreachable)

namespace Platform

/-- What an envelope says is what comes of it: data, or the fault that it is refused with. -/
theorem given_conclude (reply : Reply) (e : Except Fault Fields) :
    (conclude e).given reply = e := by
  unfold conclude
  split <;> rfl

/-- **What comes of a query is what its data are**; everything else that an operation does starts
    from there. -/
@[simp] theorem given_query (q : Query) (reply : Reply) : (query q).given reply = dataOf reply := by
  show (accept reply).given reply = dataOf reply
  cases reply with
  | answered status payload => exact given_conclude _ _
  | lost loss => cases loss <;> rfl

theorem silent_conclude (e : Except Fault Fields) : (conclude e).Silent := by
  unfold conclude
  split <;> exact trivial

/-- A query is one call, whatever comes of it. -/
theorem asksOnce_query (q : Query) : AsksOnce (.query q) (query q) := by
  refine ⟨accept, rfl, fun reply => ?_⟩
  cases reply with
  | answered status payload => exact silent_conclude _
  | lost loss => cases loss <;> exact trivial

/-- Taking an object or a text apart asks for nothing. -/
theorem silent_objectOr (fault : ApiFault) (v : Json) : (objectOr fault v).Silent := by
  cases v <;> exact trivial

theorem silent_textOfPresent (fault : ApiFault) (v : Json) : (textOfPresent fault v).Silent := by
  unfold textOfPresent
  split <;> exact trivial

/-- A text that has to be there is what is shown of the value, of whatever kind that is. -/
@[simp] theorem given_textOfPresent (reply : Reply) (fault : ApiFault) (v : Json) :
    (textOfPresent fault v).given reply =
      if v.isPresent then .ok v.display else .error (.api fault) := by
  unfold textOfPresent
  split <;> rfl

end Platform

namespace Machines

/-- **What comes of a call to the Machines API is its body**, as `given_query` says of the other
    API. -/
@[simp] theorem given_ask (app : String) (call : MachineCall) (reply : Reply) :
    (ask app call).given reply = bodyOf app call reply := by
  show (accept app call reply).given reply = bodyOf app call reply
  cases reply with
  | answered status payload =>
    simp only [accept, bodyOf]
    split <;> rfl
  | lost loss => cases loss <;> rfl

/-- Such a call is one call too; its failures are noted in the log, which asks for nothing. -/
theorem asksOnce_ask (app : String) (call : MachineCall) :
    AsksOnce (.machines app call) (ask app call) := by
  refine ⟨accept app call, rfl, fun reply => ?_⟩
  cases reply with
  | answered status payload =>
    simp only [accept]
    split <;> exact trivial
  | lost loss => cases loss <;> exact trivial

end Machines

/-! ## Each operation asks its call

  One law for each of the operations that a setup uses, all with the same short proof: one call,
  and then a reading that asks for nothing.  Two of them ask only under a condition, because they
  look at their arguments first. -/

namespace Platform

/-- The look-up of an app asks for it once: the reading that follows is silent, step by step, and so
    it is for the others. -/
theorem asksOnce_app (name : String) : AsksOnce (.query (.app name)) (app name) :=
  (asksOnce_query _).bind fun _ => (silent_objectOr _ _).bind fun _ => silent_ofShape _

/-- The look-up of the shippers asks once, and the nodes are read from that one reply. -/
theorem asksOnce_appsByRole (role organizationId : String) :
    AsksOnce (.query (.appsByRole role organizationId)) (appsByRole role organizationId) :=
  (asksOnce_query _).bind fun _ => (silent_ofShape _).bind fun _ =>
    (silent_ofShape _).bind fun _ => silent_ofShape _

/-- The creation of an app asks once, so it is never tried again. -/
theorem asksOnce_createApp (organizationId name : String) (role : Option String) (machines : Bool) :
    AsksOnce (.query (.createApp organizationId name role machines))
      (createApp organizationId name role machines) :=
  (asksOnce_query _).bind fun _ => (silent_ofShape _).bind fun _ =>
    (silent_objectOr _ _).bind fun _ => silent_ofShape _

theorem asksOnce_addOn (name : String) : AsksOnce (.query (.addOn name)) (addOn name) :=
  (asksOnce_query _).bind fun _ => (silent_objectOr _ _).bind fun _ => silent_ofShape _

theorem asksOnce_createAddOn (organizationId name appId addOnType : String) :
    AsksOnce (.query (.createAddOn organizationId name appId addOnType))
      (createAddOn organizationId name appId addOnType) :=
  (asksOnce_query _).bind fun _ => (silent_ofShape _).bind fun _ =>
    (silent_objectOr _ _).bind fun _ => silent_ofShape _

theorem asksOnce_createToken (name organizationId profile : String) (params : Json)
    (expiry : Option String) :
    AsksOnce (.query (.createToken name organizationId profile params expiry))
      (createToken name organizationId profile params expiry) :=
  (asksOnce_query _).bind fun _ => (silent_ofShape _).bind fun _ =>
    (silent_ofShape _).bind fun _ => silent_textOfPresent _ _

/-- Secrets are written with one call, if there are any; without them the operation stops before it
    asks. -/
theorem asksOnce_setSecrets (appId : String) {secrets : List Secret} (h : secrets ≠ []) :
    AsksOnce (.query (.setSecrets appId secrets)) (setSecrets appId secrets) := by
  unfold setSecrets
  rw [if_neg h]
  exact (asksOnce_query _).bind fun _ => trivial

theorem asksOnce_nearestRegion : AsksOnce (.query .nearestRegion) nearestRegion :=
  (asksOnce_query _).bind fun _ => (silent_ofShape _).bind fun _ => silent_textOfPresent _ _

end Platform

namespace Machines

theorem asksOnce_list (app : String) : AsksOnce (.machines app .list) (list app) :=
  (asksOnce_ask _ _).bind fun _ => silent_ofExcept _

theorem asksOnce_launch (app : String) (what : Launch) :
    AsksOnce (.machines app (.launch what)) (launch app what) :=
  (asksOnce_ask _ _).bind fun _ => silent_ofExcept _

/-- A machine with an id is restarted with one call; without one the operation stops before it
    asks. -/
theorem asksOnce_restart (app : String) {machineId : String} (h : machineId ≠ "") :
    AsksOnce (.machines app (.restart machineId)) (restart app machineId) := by
  unfold restart
  rw [if_neg h]
  exact (asksOnce_ask _ _).bind fun _ => trivial

end Machines

/-! ## The operation of a call, and whether it accepts the reply

  The operations have values of different types, and exchanges do not know types.  So the
  operation of a call forgets its value, and what is left of it is whether it accepted the reply. -/

/-- The procedure without its value. -/
def Procedure.forget {α : Type} (p : Procedure α) : Procedure Unit := p.bind fun _ => .done ()

/-- The operation that asks the call. -/
def Call.operation : Call → Procedure Unit
  | .query (.app name) => (Platform.app name).forget
  | .query (.appsByRole role organizationId) => (Platform.appsByRole role organizationId).forget
  | .query (.createApp organizationId name role hasMachines) =>
    (Platform.createApp organizationId name role hasMachines).forget
  | .query (.addOn name) => (Platform.addOn name).forget
  | .query (.createAddOn organizationId name appId addOnType) =>
    (Platform.createAddOn organizationId name appId addOnType).forget
  | .query (.createToken name organizationId profile params expiry) =>
    (Platform.createToken name organizationId profile params expiry).forget
  | .query (.setSecrets appId secrets) => (Platform.setSecrets appId secrets).forget
  | .query .nearestRegion => Platform.nearestRegion.forget
  | .machines app .list => (Machines.list app).forget
  | .machines app (.launch what) => (Machines.launch app what).forget
  | .machines app (.restart machineId) => (Machines.restart app machineId).forget
  | .machines app (.wait machineId state seconds) =>
    (Machines.wait app machineId state seconds).forget

/-- The fault with which the operation of the call refuses the reply, if it does. -/
def Exchange.refusal? (x : Exchange) : Option Fault :=
  match x.1.operation.given x.2 with
  | .ok _ => none
  | .error fault => some fault

/-- The reply is accepted by the operation of the call. -/
def Exchange.IsAccepted (x : Exchange) : Prop := x.refusal? = none

namespace Exchange

variable {α : Type} {call : Call} {reply : Reply} {p : Procedure α}

/-- What the operation stops with is the refusal. -/
theorem refusal?_of_error {fault : Fault} (hp : call.operation = p.forget)
    (h : p.given reply = .error fault) : refusal? (call, reply) = some fault := by
  simp only [refusal?, hp, forget, given_bind, h]
  rfl

/-- Where the operation gives a value, the reply is accepted. -/
theorem isAccepted_of_ok {value : α} (hp : call.operation = p.forget)
    (h : p.given reply = .ok value) : IsAccepted (call, reply) := by
  simp only [IsAccepted, refusal?, hp, forget, given_bind, h]
  rfl

end Exchange

end LogDrain
