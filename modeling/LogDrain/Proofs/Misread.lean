/-
  WHAT THE OPERATIONS MISREAD: exactly the misshapen replies.

  Every operation starts with the reply's data or body, and then takes it apart step by step.  A law
  for each step (`misread_objectOr`, `misread_member`, `misread_apps`) gives, for each operation,
  the replies that it misreads (`misread_app` and the others), and together `misshapen_iff`.

  What an operation stops with otherwise is a fault of its API (`isRemote_of_refusal`): no reply
  makes it stop with anything else, unless the connection breaks in a way that is not provided for.

  The laws are equivalences in both directions, and this is what makes them compose: what an
  operation stops at in its second step counts only for replies that pass the first.  The table of
  places that an operation looks into (`Query.objectPaths`, `Query.textPaths`) is not taken from
  the operations, so the equivalences check the one against the other.
-/
import LogDrain.Proofs.Misshapen

namespace LogDrain

/-! ## Steps of a reading

  The laws are about a step and what follows it, `x >>= g`, since an operation is a row of such
  steps.  What follows is looked at only where the step gave something to go on with. -/

namespace Platform

/-- The data of a reply are misread only where one of its errors has a code that cannot be looked up
    in the table: the codes that say "not found" are compared by value, and an array or an object
    has none. -/
theorem misread_dataOf {reply : Reply} : Misread (dataOf reply) ↔ HasUnreadableErrors reply := by
  unfold HasUnreadableErrors
  cases reply with
  | lost loss => cases loss <;> simp [dataOf, Fault.IsShape]
  | answered status payload => simpa [dataOf] using Envelope.misread_read

section Operations

variable {α : Type} {reply : Reply}

/-- An operation misreads the errors of its reply, or its data. -/
theorem misread_then {q : Query} {f : Fields → Procedure α} :
    Misread ((query q >>= f).given reply) ↔
      HasUnreadableErrors reply ∨ ∃ data, HasData reply data ∧ Misread ((f data).given reply) := by
  rw [Procedure.given_then, given_query]
  refine stopsWith_bind.trans (or_congr misread_dataOf ?_)
  simp only [dataOf_eq_ok]

/-- Where an object is wanted, anything else is a fault of the API and no misreading; so what is
    misread is what comes after it. -/
theorem misread_objectOr {fault : ApiFault} {v : Json} {g : Json → Except Fault α} :
    Misread ((objectOr fault v).given reply >>= g) ↔
      ∃ fields, v = .obj fields ∧ Misread (g (.obj fields)) := by
  refine stopsWith_bind.trans ?_
  cases v with
  | obj fields => simp [objectOr]
  | _ => simp [objectOr, Fault.IsShape]

/-- A step into an object misreads what is no object; nothing at all counts as an empty one. -/
theorem misread_member {v : Json} {key : String} {g : Json → Except Fault α}
    (hnull : ¬ Misread (g .null)) :
    Misread ((v.memberOfPresent key).mapError Fault.shape >>= g) ↔
      v.Misplaced ∨ ∃ fields, v = .obj fields ∧ Misread (g (Fields.get fields key)) := by
  have hstops : Misread ((v.memberOfPresent key).mapError Fault.shape) ↔ v.Misplaced :=
    stopsWith_mapError.trans Json.stops_memberOfPresent
  refine stopsWith_bind.trans (or_congr hstops ⟨?_, ?_⟩)
  · rintro ⟨w, hw, hg⟩
    have hmember := mapError_eq_ok.mp hw
    have hne : w ≠ .null := by
      rintro rfl
      exact hnull hg
    obtain ⟨fields, rfl, rfl⟩ := Json.leadsTo_of_memberOfPresent hmember hne
    exact ⟨fields, rfl, hg⟩
  · rintro ⟨fields, rfl, hg⟩
    exact ⟨_, mapError_eq_ok.mpr (memberOfPresent_obj fields key), hg⟩

/-- A text that has to be there is never misread: whatever is there is taken in words, and nothing
    at all is a fault of the API. -/
@[simp] theorem not_misread_text {fault : ApiFault} {v : Json} :
    ¬ Misread (if v.isPresent then .ok v.display else .error (.api fault) :
      Except Fault String) := by
  split <;> simp [Fault.IsShape]

/-- Reading the apps of a list misreads what is no list of apps. -/
theorem misread_apps {v : Json} :
    Misread ((v.orElse (.arr [])).elements.mapError Fault.shape >>= fun entries =>
      ((Json.objects entries).mapM fun fields => App.ofJson (.obj fields)).mapError Fault.shape) ↔
      MisfitApps v := by
  have hstops : Misread ((v.orElse (.arr [])).elements.mapError Fault.shape) ↔ v.Unwalkable :=
    stopsWith_mapError.trans Json.stops_elements_orElse
  refine stopsWith_bind.trans (or_congr hstops ⟨?_, ?_⟩)
  · rintro ⟨entries, hentries, hread⟩
    obtain ⟨fields, hmem, hfields⟩ := stops_mapM.mp (stopsWith_mapError.mp hread)
    -- an entry that stops is an object, so the nodes are an array and not nothing
    have hne : Json.objects entries ≠ [] := List.ne_nil_of_mem hmem
    obtain ⟨w, hw, hwfields⟩ := List.mem_filterMap.mp hmem
    cases w with
    | obj others =>
      cases hwfields
      exact ⟨entries, fields, Json.eq_arr_of_objects_ne_nil (mapError_eq_ok.mp hentries) hne, hw,
        App.stops_ofJson.mp hfields⟩
    | _ => cases hwfields
  · rintro ⟨nodes, fields, rfl, hmem, hfields⟩
    refine ⟨nodes, mapError_eq_ok.mpr (elements_orElse_arr nodes), ?_⟩
    exact stopsWith_mapError.mpr
      (stops_mapM.mpr ⟨fields, List.mem_filterMap.mpr ⟨_, hmem, rfl⟩, App.stops_ofJson.mpr hfields⟩)

end Operations

end Platform

/-! ## The operations

  For each operation: it misreads exactly the replies that are misshapen for its query.  By
  `misread_iff` this is an equivalence on the data, and `simp` with the laws of the steps walks
  along the operation and along the table of its paths at the same time. -/

namespace Platform

variable {reply : Reply}

/-- To say what an operation misreads, it is enough to look at its reading of the data. -/
theorem misread_iff {α : Type} {q : Query} {f : Fields → Procedure α}
    (h : ∀ data, Misread ((f data).given reply) ↔ q.Misfit data) :
    Misread ((query q >>= f).given reply) ↔ Misshapen (.query q, reply) := by
  rw [misread_then, misshapen_query]
  simp only [h]

theorem misread_app {name : String} :
    Misread ((app name).given reply) ↔ Misshapen (.query (.app name), reply) := by
  refine misread_iff fun data => ?_
  rw [Procedure.given_then, misread_objectOr]
  simp [Query.Misfit, Query.objectPaths, Query.textPaths, Query.listPaths, Json.LeadsTo]

/-- The look-up of the shippers misreads exactly its misshapen replies: a place on the way to the
    nodes that is no object, or a node that cannot be read as an app. -/
theorem misread_appsByRole {role organizationId : String} :
    Misread ((appsByRole role organizationId).given reply) ↔
      Misshapen (.query (.appsByRole role organizationId), reply) := by
  refine misread_iff fun data => ?_
  simp only [Procedure.given_then, Procedure.given_ofShape]
  rw [misread_member (by simp [misread_apps, MisfitApps, Json.Unwalkable])]
  simp [Query.Misfit, Query.objectPaths, Query.textPaths, Query.listPaths, Json.LeadsTo,
    misread_apps]

theorem misread_createApp {organizationId name : String} {role : Option String} {machines : Bool} :
    Misread ((createApp organizationId name role machines).given reply) ↔
      Misshapen (.query (.createApp organizationId name role machines), reply) := by
  refine misread_iff fun data => ?_
  simp only [Procedure.given_then, Procedure.given_ofShape]
  rw [misread_member (by simp [misread_objectOr])]
  simp [Query.Misfit, Query.objectPaths, Query.textPaths, Query.listPaths, Json.LeadsTo,
    misread_objectOr, and_assoc]

theorem misread_addOn {name : String} :
    Misread ((addOn name).given reply) ↔ Misshapen (.query (.addOn name), reply) := by
  refine misread_iff fun data => ?_
  rw [Procedure.given_then, misread_objectOr]
  simp [Query.Misfit, Query.objectPaths, Query.textPaths, Query.listPaths, Json.LeadsTo]

theorem misread_createAddOn {organizationId name appId addOnType : String} :
    Misread ((createAddOn organizationId name appId addOnType).given reply) ↔
      Misshapen (.query (.createAddOn organizationId name appId addOnType), reply) := by
  refine misread_iff fun data => ?_
  simp only [Procedure.given_then, Procedure.given_ofShape]
  rw [misread_member (by simp [misread_objectOr])]
  simp [Query.Misfit, Query.objectPaths, Query.textPaths, Query.listPaths, Json.LeadsTo,
    misread_objectOr, and_assoc]

/-- A token lies two objects deep, and each of the two can be something else; the token itself is
    never misread (`not_misread_text`). -/
theorem misread_createToken {name organizationId profile : String} {params : Json}
    {expiry : Option String} :
    Misread ((createToken name organizationId profile params expiry).given reply) ↔
      Misshapen (.query (.createToken name organizationId profile params expiry), reply) := by
  refine misread_iff fun data => ?_
  -- the inner step first, since it has to be known not to misread nothing at all
  have hinner : ∀ issued : Json,
      Misread ((issued.memberOfPresent "token").mapError Fault.shape >>= fun token =>
        if token.isPresent then .ok token.display else .error (.api (.noTokenIssued name))) ↔
        issued.Misplaced := by
    intro issued
    rw [misread_member not_misread_text]
    exact or_iff_left fun ⟨_, _, h⟩ => not_misread_text h
  simp only [Procedure.given_then, Procedure.given_ofShape, given_textOfPresent]
  rw [misread_member (fun h => Json.not_misplaced_null ((hinner _).mp h))]
  simp [Query.Misfit, Query.objectPaths, Query.textPaths, Query.listPaths, Json.LeadsTo, hinner]

/-- Writing secrets reads no data, so only the errors can be misread.  Without secrets nothing is
    asked at all, hence the condition. -/
theorem misread_setSecrets {appId : String} {secrets : List Secret} (h : secrets ≠ []) :
    Misread ((setSecrets appId secrets).given reply) ↔
      Misshapen (.query (.setSecrets appId secrets), reply) := by
  unfold setSecrets
  rw [if_neg h]
  refine misread_iff fun data => ?_
  simp [Query.Misfit, Query.objectPaths, Query.textPaths, Query.listPaths]

/-- The region is one object deep, and its code is a text that has to be there. -/
theorem misread_nearestRegion :
    Misread (nearestRegion.given reply) ↔ Misshapen (.query .nearestRegion, reply) := by
  refine misread_iff fun data => ?_
  simp only [Procedure.given_then, Procedure.given_ofShape, given_textOfPresent]
  rw [misread_member not_misread_text]
  simp [Query.Misfit, Query.objectPaths, Query.textPaths, Query.listPaths, Json.LeadsTo]

end Platform

namespace Machines

/-- There is a body to read exactly if the status is one of the two that are accepted. -/
theorem bodyOf_eq_ok {app : String} {call : MachineCall} {reply : Reply} {payload : List UInt8} :
    bodyOf app call reply = .ok payload ↔
      ∃ status, reply = .answered status payload ∧ (status = 200 ∨ status = 201) := by
  cases reply with
  | lost loss => cases loss <;> simp [bodyOf]
  | answered status body =>
    -- an answer is sorted by its status; nothing of the body is looked at here
    simp only [bodyOf]
    split
    · rename_i hstatus
      have hcode : status = 200 ∨ status = 201 := by
        simpa [isAccepted] using hstatus
      constructor
      · rintro ⟨⟩
        exact ⟨status, rfl, hcode⟩
      · rintro ⟨_, ⟨⟩, -⟩
        rfl
    · rename_i hstatus
      refine iff_of_false (fun hstop => by cases hstop) ?_
      rintro ⟨_, ⟨⟩, hcode⟩
      exact hstatus (by simpa [isAccepted] using hcode)

/-- Getting at a body is no reading: what stops it is the status or the connection. -/
theorem not_misread_bodyOf {app : String} {call : MachineCall} {reply : Reply} :
    ¬ Misread (bodyOf app call reply) := by
  cases reply with
  | lost loss => cases loss <;> simp [bodyOf, Fault.IsShape]
  | answered status body =>
    simp only [bodyOf]
    split <;> simp [Fault.IsShape]

/-- A machine without an id is a fault of the API, however else it is made; only one with an id is
    misread for its fields. -/
theorem misread_machine {app : String} {call : MachineCall} {fields : Fields} :
    Misread (machine app call fields) ↔
      (Fields.get fields "id").isPresent = true ∧ MisfitMachine fields := by
  unfold machine
  split
  · rename_i hid
    simp [hid]
  · rename_i hid
    simp [hid, Fault.IsShape]

/-- The machines that are read: those with an id and with nothing that does not fit. -/
theorem exists_machine_iff {app : String} {call : MachineCall} {fields : Fields} :
    (∃ m, machine app call fields = .ok m) ↔
      (Fields.get fields "id").isPresent = true ∧ ¬ MisfitMachine fields := by
  unfold machine
  split
  · rename_i hid
    rw [← Machine.stops_ofJson]
    cases Machine.ofJson (.obj fields) with
    | ok m => simp [hid, Except.mapError]
    | error fault => simp [Except.mapError]
  · rename_i hid
    simp [hid]

/-- A listing is misread at the first entry that does not fit.  An entry before it without an id
    would have ended the reading with a fault of the API, which is why `MisfitMachines` speaks of
    the entries in front. -/
theorem misread_readList {app : String} {payload : List UInt8} :
    Misread (readList app payload) ↔
      ∃ items, Envelope.parse? payload = some (.arr items) ∧ MisfitMachines items := by
  have hobjects : ∀ items, Misread ((Json.objects items).mapM (machine app .list)) ↔
      MisfitMachines items := by
    intro items
    simp only [Misread, stopsWith_mapM, exists_machine_iff, misread_machine, MisfitMachines]
  -- nothing, no JSON, an array and any other value are the four ways a body can be
  unfold readList payloadValue?
  by_cases hpayload : payload = []
  · subst hpayload
    exact iff_of_false (stopsWith_ok _) nofun
  · rw [if_neg hpayload]
    split
    · rename_i hparse
      simp [hparse, Fault.IsShape]
    · rename_i items hparse
      simp [hparse, hobjects]
    · rename_i v hother hparse
      refine iff_of_false (stopsWith_ok _) ?_
      rintro ⟨items, hitems, -⟩
      rw [hparse] at hitems
      exact hother items (Option.some.inj hitems ▸ rfl)

/-- A launch is answered with one machine; any other value is a fault of the API. -/
theorem misread_readLaunch {app : String} {what : Launch} {payload : List UInt8} :
    Misread (readLaunch app what payload) ↔ ∃ fields, Envelope.parse? payload = some (.obj fields) ∧
      (Fields.get fields "id").isPresent = true ∧ MisfitMachine fields := by
  unfold readLaunch payloadValue?
  by_cases hpayload : payload = []
  · subst hpayload
    refine iff_of_false ?_ nofun
    simp [misread_machine, Fields.get, Json.isPresent]
  · rw [if_neg hpayload]
    split
    · rename_i fields hparse
      rw [hparse, misread_machine]
      simp
    · rename_i hother
      refine iff_of_false (by simp [Fault.IsShape]) ?_
      rintro ⟨fields, hfields, -⟩
      exact hother fields hfields

variable {reply : Reply}

/-- The listing misreads exactly its misshapen replies: accepted ones with an entry that does not
    fit. -/
theorem misread_list {app : String} :
    Misread ((list app).given reply) ↔ Misshapen (.machines app .list, reply) := by
  unfold list
  rw [Procedure.given_then, given_ask]
  refine (stopsWith_bind.trans (or_iff_right not_misread_bodyOf)).trans ?_
  simp only [Procedure.given_ofExcept, bodyOf_eq_ok]
  constructor
  · rintro ⟨payload, ⟨status, rfl, hstatus⟩, hread⟩
    obtain ⟨items, hparse, hitems⟩ := misread_readList.mp hread
    exact .listed hstatus hparse hitems
  · intro h
    cases h with
    | listed hstatus hparse hitems =>
      exact ⟨_, ⟨_, rfl, hstatus⟩, misread_readList.mpr ⟨_, hparse, hitems⟩⟩

/-- The launch misreads exactly its misshapen replies: accepted ones with an object that does not
    fit. -/
theorem misread_launch {app : String} {what : Launch} :
    Misread ((launch app what).given reply) ↔ Misshapen (.machines app (.launch what), reply) := by
  unfold launch
  rw [Procedure.given_then, given_ask]
  refine (stopsWith_bind.trans (or_iff_right not_misread_bodyOf)).trans ?_
  simp only [Procedure.given_ofExcept, bodyOf_eq_ok]
  constructor
  · rintro ⟨payload, ⟨status, rfl, hstatus⟩, hread⟩
    obtain ⟨fields, hparse, hid, hmisfit⟩ := misread_readLaunch.mp hread
    exact .launched hstatus hparse hid hmisfit
  · intro h
    cases h with
    | launched hstatus hparse hid hmisfit =>
      exact ⟨_, ⟨_, rfl, hstatus⟩, misread_readLaunch.mpr ⟨_, hparse, hid, hmisfit⟩⟩

/-- Where only the status counts, nothing is misread. -/
theorem not_misread_ask {app : String} {call : MachineCall} :
    ¬ Misread ((ask app call >>= fun _ => (pure () : Procedure Unit)).given reply) := by
  rw [Procedure.given_then, given_ask]
  refine fun h => (stopsWith_bind.mp h).elim not_misread_bodyOf ?_
  rintro ⟨payload, -, hdone⟩
  exact stopsWith_ok _ hdone

end Machines

/-! ## Faults of the API

  Apart from wrong shapes there is little an operation can stop with.  `Strays` is "it stops with
  something else", and no step of any operation does, as long as the connection broke in one of
  the ways provided for. -/

/-- The fault comes from the reply: it is a fault of one of the APIs, or a wrong shape. -/
def Fault.IsRemote : Fault → Prop
  | .api _ | .machines .. | .shape _ => True
  | _ => False

/-- The reading stops with a fault that does not come from the reply. -/
abbrev Strays {α : Type} (e : Except Fault α) : Prop := StopsWith (fun fault => ¬ fault.IsRemote) e

section Strays

variable {α β : Type} {reply : Reply}

theorem not_strays_bind {x : Except Fault α} {f : α → Except Fault β} (hx : ¬ Strays x)
    (hf : ∀ a, ¬ Strays (f a)) : ¬ Strays (x >>= f) := by
  intro h
  rcases stopsWith_bind.mp h with h | ⟨a, -, h⟩
  · exact hx h
  · exact hf a h

theorem not_strays_shape (e : Except ShapeFault α) : ¬ Strays (e.mapError Fault.shape) := by
  intro h
  obtain ⟨_, _, hnot⟩ := stopsWith_mapError.mp h
  exact hnot trivial

theorem not_strays_objectOr (fault : ApiFault) (v : Json) :
    ¬ Strays ((Platform.objectOr fault v).given reply) := by
  cases v <;> simp [Platform.objectOr, Fault.IsRemote]

theorem not_strays_text (fault : ApiFault) (v : Json) :
    ¬ Strays ((Platform.textOfPresent fault v).given reply) := by
  rw [Platform.given_textOfPresent]
  split <;> simp [Fault.IsRemote]

/-- An envelope is refused with a fault of the API or is misread; its status and its errors give
    nothing else. -/
theorem not_strays_read (status : Int) (payload : List UInt8) :
    ¬ Strays (Envelope.read status payload) := by
  unfold Envelope.read Envelope.refusal
  simp only []
  split
  · split
    · simp [Fault.IsRemote]
    · split <;> simp [Fault.IsRemote]
  · split
    · simp [Fault.IsRemote]
    · split <;> simp [Fault.IsRemote]

/-- A query that breaks in one of the ways provided for is a fault of the API. -/
theorem not_strays_dataOf (h : reply ≠ .lost .other) : ¬ Strays (Platform.dataOf reply) := by
  cases reply with
  | answered status payload => exact not_strays_read status payload
  | lost loss =>
    cases loss with
    | other => exact absurd rfl h
    | _ => simp [Platform.dataOf, Fault.IsRemote]

/-- A call to the Machines API that breaks in such a way is a fault of that API, and there the
    status can be refused as well. -/
theorem not_strays_bodyOf {app : String} {call : MachineCall} (h : reply ≠ .lost .other) :
    ¬ Strays (Machines.bodyOf app call reply) := by
  cases reply with
  | answered status payload =>
    simp only [Machines.bodyOf]
    split <;> simp [Fault.IsRemote]
  | lost loss =>
    cases loss with
    | other => exact absurd rfl h
    | _ => simp [Machines.bodyOf, Fault.IsRemote]

theorem not_strays_machine (app : String) (call : MachineCall) (fields : Fields) :
    ¬ Strays (Machines.machine app call fields) := by
  unfold Machines.machine
  split
  · exact not_strays_shape _
  · simp [Fault.IsRemote]

theorem not_strays_readList (app : String) (payload : List UInt8) :
    ¬ Strays (Machines.readList app payload) := by
  unfold Machines.readList
  split
  · simp [Fault.IsRemote]
  · intro h
    obtain ⟨_, fields, _, -, -, hmachine⟩ := stopsWith_mapM.mp h
    exact not_strays_machine _ _ fields hmachine
  · exact stopsWith_ok _

theorem not_strays_readLaunch (app : String) (what : Launch) (payload : List UInt8) :
    ¬ Strays (Machines.readLaunch app what payload) := by
  unfold Machines.readLaunch
  split
  · exact not_strays_machine _ _ _
  · simp [Fault.IsRemote]

end Strays

/-! ## The operation of a call

  The results of the two sections are put together by cases on the call, which is the form in
  which runs need them. -/

/-- The call is one that its operation asks: it writes at least one secret, and restarts a machine
    by its id. -/
def Call.IsAskable : Call → Prop
  | .query (.setSecrets _ secrets) => secrets ≠ []
  | .machines _ (.restart id) => id ≠ ""
  | _ => True

/-- What a procedure stops with does not depend on its value. -/
theorem stopsWith_forget {α : Type} {P : Fault → Prop} {p : Procedure α} {reply : Reply} :
    StopsWith P (p.forget.given reply) ↔ StopsWith P (p.given reply) := by
  unfold Procedure.forget
  rw [Procedure.given_bind]
  refine stopsWith_bind.trans (or_iff_left ?_)
  rintro ⟨_, -, h⟩
  exact stopsWith_ok _ h

/-- **The operation of a call misreads exactly the misshapen replies to it**, call by call. What is
    only asked, a restart or a wait, reads nothing and misreads nothing. -/
theorem misread_operation {call : Call} (h : call.IsAskable) (reply : Reply) :
    Misread (call.operation.given reply) ↔ Misshapen (call, reply) := by
  cases call with
  | query q =>
    cases q with
    | app => exact stopsWith_forget.trans Platform.misread_app
    | appsByRole => exact stopsWith_forget.trans Platform.misread_appsByRole
    | createApp => exact stopsWith_forget.trans Platform.misread_createApp
    | addOn => exact stopsWith_forget.trans Platform.misread_addOn
    | createAddOn => exact stopsWith_forget.trans Platform.misread_createAddOn
    | createToken => exact stopsWith_forget.trans Platform.misread_createToken
    | setSecrets => exact stopsWith_forget.trans (Platform.misread_setSecrets h)
    | nearestRegion => exact stopsWith_forget.trans Platform.misread_nearestRegion
  | machines app call =>
    cases call with
    | list => exact stopsWith_forget.trans Machines.misread_list
    | launch what => exact stopsWith_forget.trans Machines.misread_launch
    | restart id =>
      -- of a restart nothing but the status is looked at
      refine stopsWith_forget.trans (iff_of_false ?_ nofun)
      unfold Machines.restart
      rw [if_neg h]
      exact Machines.not_misread_ask
    | wait => exact stopsWith_forget.trans (iff_of_false Machines.not_misread_ask nofun)

/-- No query stops with anything but a fault of the API or a wrong shape: each step of each
    operation is one of those above. -/
theorem not_strays_query {q : Query} (h : (Call.query q).IsAskable) {reply : Reply}
    (hreply : reply ≠ .lost .other) : ¬ Strays ((Call.query q).operation.given reply) := by
  have hdata := not_strays_dataOf hreply
  cases q with
  | app =>
    -- every case is the same: the steps of the operation are laid out, and each has its law
    refine mt stopsWith_forget.mp ?_
    simp only [Platform.app, Procedure.given_then, Platform.given_query, Procedure.given_ofShape]
    exact not_strays_bind hdata fun _ => not_strays_bind (not_strays_objectOr _ _) fun _ =>
      not_strays_shape _
  | appsByRole =>
    refine mt stopsWith_forget.mp ?_
    simp only [Platform.appsByRole, Procedure.given_then, Platform.given_query,
      Procedure.given_ofShape]
    exact not_strays_bind hdata fun _ => not_strays_bind (not_strays_shape _) fun _ =>
      not_strays_bind (not_strays_shape _) fun _ => not_strays_shape _
  | createApp =>
    refine mt stopsWith_forget.mp ?_
    simp only [Platform.createApp, Procedure.given_then, Platform.given_query,
      Procedure.given_ofShape]
    exact not_strays_bind hdata fun _ => not_strays_bind (not_strays_shape _) fun _ =>
      not_strays_bind (not_strays_objectOr _ _) fun _ => not_strays_shape _
  | addOn =>
    refine mt stopsWith_forget.mp ?_
    simp only [Platform.addOn, Procedure.given_then, Platform.given_query, Procedure.given_ofShape]
    exact not_strays_bind hdata fun _ => not_strays_bind (not_strays_objectOr _ _) fun _ =>
      not_strays_shape _
  | createAddOn =>
    refine mt stopsWith_forget.mp ?_
    simp only [Platform.createAddOn, Procedure.given_then, Platform.given_query,
      Procedure.given_ofShape]
    exact not_strays_bind hdata fun _ => not_strays_bind (not_strays_shape _) fun _ =>
      not_strays_bind (not_strays_objectOr _ _) fun _ => not_strays_shape _
  | createToken =>
    refine mt stopsWith_forget.mp ?_
    simp only [Platform.createToken, Procedure.given_then, Platform.given_query,
      Procedure.given_ofShape]
    exact not_strays_bind hdata fun _ => not_strays_bind (not_strays_shape _) fun _ =>
      not_strays_bind (not_strays_shape _) fun _ => not_strays_text _ _
  | setSecrets =>
    refine mt stopsWith_forget.mp ?_
    unfold Platform.setSecrets
    rw [if_neg h, Procedure.given_then, Platform.given_query]
    exact not_strays_bind hdata fun _ => stopsWith_ok _
  | nearestRegion =>
    refine mt stopsWith_forget.mp ?_
    simp only [Platform.nearestRegion, Procedure.given_then, Platform.given_query,
      Procedure.given_ofShape]
    exact not_strays_bind hdata fun _ => not_strays_bind (not_strays_shape _) fun _ =>
      not_strays_text _ _

/-- The same of the Machines API, where a body stands in place of the data. -/
theorem not_strays_machines {app : String} {call : MachineCall}
    (h : (Call.machines app call).IsAskable) {reply : Reply} (hreply : reply ≠ .lost .other) :
    ¬ Strays ((Call.machines app call).operation.given reply) := by
  cases call with
  | list =>
    refine mt stopsWith_forget.mp ?_
    simp only [Machines.list, Procedure.given_then, Machines.given_ask, Procedure.given_ofExcept]
    exact not_strays_bind (not_strays_bodyOf hreply) fun _ => not_strays_readList _ _
  | launch what =>
    refine mt stopsWith_forget.mp ?_
    simp only [Machines.launch, Procedure.given_then, Machines.given_ask, Procedure.given_ofExcept]
    exact not_strays_bind (not_strays_bodyOf hreply) fun _ => not_strays_readLaunch _ _ _
  | restart id =>
    refine mt stopsWith_forget.mp ?_
    unfold Machines.restart
    rw [if_neg h, Procedure.given_then, Machines.given_ask]
    exact not_strays_bind (not_strays_bodyOf hreply) fun _ => stopsWith_ok _
  | wait =>
    refine mt stopsWith_forget.mp ?_
    simp only [Machines.wait, Procedure.given_then, Machines.given_ask]
    exact not_strays_bind (not_strays_bodyOf hreply) fun _ => stopsWith_ok _

namespace Exchange

variable {x : Exchange}

/-- A reply is refused with the fault that the operation of its call stops with. -/
theorem refusal?_eq_some {fault : Fault} :
    x.refusal? = some fault ↔ x.1.operation.given x.2 = .error fault := by
  unfold refusal?
  cases x.1.operation.given x.2 with
  | ok value => exact ⟨nofun, nofun⟩
  | error cause => simp

/-- **A reply is misshapen exactly if its operation refuses it with a wrong shape.** -/
theorem misshapen_iff (h : x.1.IsAskable) :
    Misshapen x ↔ ∃ fault, x.refusal? = some (.shape fault) := by
  refine (misread_operation h x.2).symm.trans ?_
  simp only [refusal?_eq_some]
  constructor
  · rintro ⟨fault, hgiven, hshape⟩
    cases fault with
    | shape fault => exact ⟨fault, hgiven⟩
    | _ => cases hshape
  · rintro ⟨fault, hgiven⟩
    exact ⟨_, hgiven, trivial⟩

/-- **Every other refusal is a fault of the API that was asked.** -/
theorem isRemote_of_refusal (h : x.1.IsAskable) (hreply : x.2 ≠ .lost .other) {fault : Fault}
    (hfault : x.refusal? = some fault) : fault.IsRemote := by
  have hgiven := refusal?_eq_some.mp hfault
  have hstays : ¬ Strays (x.1.operation.given x.2) := by
    obtain ⟨call, reply⟩ := x
    cases call with
    | query q => exact not_strays_query h hreply
    | machines app call => exact not_strays_machines h hreply
  rw [hgiven] at hstays
  exact Classical.not_not.mp fun hnot => hstays ⟨fault, rfl, hnot⟩

end Exchange

end LogDrain
