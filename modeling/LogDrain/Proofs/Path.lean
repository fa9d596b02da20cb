/-
  PATHS: what stands where in the data of a reply.

  `v.LeadsTo path w` says that from `v`, through objects only, the keys of the path lead to `w`; and
  `Holds reply path w` that the reply is accepted and its data lead to `w`.  In these words it is
  said what each operation reads from a reply (`Gives…`), without the operation:

    * `GivesApp`, `GivesNewApp`       the app under `app`, and the one under `createApp`, `app`;
    * `GivesShipper`                  the first node under `apps`, `nodes` that is an object;
    * `GivesAddOn`, `GivesNewAddOn`   the add-on under `addOn`, and the one under `createAddOn`,
      `addOn`;
    * `GivesToken`                    the token that was issued;
    * `GivesMachines`                 the ids of the objects that a body lists.

  A step along a path may be taken over nothing at all, which counts as an object without fields;
  but such a step ends at null (`leadsTo_of_memberOfPresent`).

  An operation returns what its reply gives, and nothing else (`given_app_iff` and the others).
-/
import LogDrain.Proofs.Creation

namespace LogDrain

/-! ## Paths

  A path goes through objects by keys, and nothing else.  An operation may also step over what is
  nothing; the two are brought together by what stands at the end, since nothing can only lead to
  nothing. -/

/-- From the value, through objects only, the keys lead to the other value. -/
def Json.LeadsTo : Json → List String → Json → Prop
  | v, [], w => v = w
  | v, key :: path, w => ∃ fields, v = .obj fields ∧ (Fields.get fields key).LeadsTo path w

/-- The reply is accepted, and its data lead along the path to the value. -/
def Holds (reply : Reply) (path : List String) (w : Json) : Prop :=
  ∃ data, HasData reply data ∧ (Json.obj data).LeadsTo path w

namespace Json

/-- A path goes on where another one ended. -/
theorem LeadsTo.append {v w u : Json} {path rest : List String} (h : v.LeadsTo path w)
    (hrest : w.LeadsTo rest u) : v.LeadsTo (path ++ rest) u := by
  induction path generalizing v with
  | nil =>
    cases h
    exact hrest
  | cons key path ih =>
    obtain ⟨fields, rfl, h⟩ := h
    exact ⟨fields, rfl, ih h⟩

/-- A path is taken over an object; nothing else has a key. -/
theorem LeadsTo.exists_fields {v w : Json} {key : String} {path : List String}
    (h : v.LeadsTo (key :: path) w) : ∃ fields, v = .obj fields := by
  obtain ⟨fields, rfl, -⟩ := h
  exact ⟨fields, rfl⟩

/-- One step along a path. -/
theorem LeadsTo.step {fields : Fields} {w : Json} {key : String} {path : List String}
    (h : (Json.obj fields).LeadsTo (key :: path) w) : (Fields.get fields key).LeadsTo path w := by
  obtain ⟨_, hobj, h⟩ := h
  cases hobj
  exact h

theorem LeadsTo.get_eq {fields : Fields} {w : Json} {key : String}
    (h : (Json.obj fields).LeadsTo [key] w) : Fields.get fields key = w := h.step

/-- The field of a value that may be nothing, unless it is null, is the field of an object. -/
theorem leadsTo_of_memberOfPresent {v w : Json} {key : String} (h : v.memberOfPresent key = .ok w)
    (hw : w ≠ .null) : v.LeadsTo [key] w := by
  unfold memberOfPresent member orElse at h
  split at h
  · rename_i fields hfields
    cases h
    split at hfields
    · exact ⟨fields, hfields, rfl⟩
    · -- nothing stands for an object without fields
      cases hfields
      exact absurd rfl hw
  · cases h

/-- What a walk meets has objects only if it is an array. -/
theorem eq_arr_of_elements {v : Json} {entries : List Json} (h : v.elements = .ok entries)
    (hobjects : objects entries ≠ []) : v = .arr entries := by
  cases v with
  | arr items =>
    cases h
    rfl
  | obj fields =>
    cases h
    exact absurd (by simp [objects, fields?]) hobjects
  | str s =>
    cases h
    exact absurd (by simp [objects, fields?]) hobjects
  | null =>
    cases h
    exact absurd rfl hobjects
  | bool | int | real => cases h

/-- Where there is an object among the entries there are entries, so the value was an array and not
    nothing at all. -/
theorem eq_arr_of_objects_ne_nil {v : Json} {entries : List Json}
    (h : (v.orElse (.arr [])).elements = .ok entries) (hobjects : objects entries ≠ []) :
    v = .arr entries := by
  unfold orElse at h
  split at h
  · exact eq_arr_of_elements h hobjects
  · cases h
    exact absurd rfl hobjects

end Json

/-! ## What replies give

  For each operation, what its reply gives, in terms of a path and the record at its end. -/

/-- The reply gives this app. -/
def GivesApp (reply : Reply) (app : App) : Prop :=
  ∃ fields, Holds reply ["app"] (.obj fields) ∧ App.ofJson (.obj fields) = .ok app

/-- The first node of the reply that is an object gives this app. -/
def GivesShipper (reply : Reply) (shipper : App) : Prop :=
  ∃ nodes fields others, Holds reply ["apps", "nodes"] (.arr nodes) ∧
    Json.objects nodes = fields :: others ∧ App.ofJson (.obj fields) = .ok shipper

/-- The reply gives this app, which was created. -/
def GivesNewApp (reply : Reply) (app : App) : Prop :=
  ∃ fields, Holds reply ["createApp", "app"] (.obj fields) ∧ App.ofJson (.obj fields) = .ok app

/-- The reply gives this add-on. -/
def GivesAddOn (reply : Reply) (addOn : AddOn) : Prop :=
  ∃ fields, Holds reply ["addOn"] (.obj fields) ∧ AddOn.ofJson (.obj fields) = .ok addOn

/-- The reply gives this add-on, which was created. -/
def GivesNewAddOn (reply : Reply) (addOn : AddOn) : Prop :=
  ∃ fields, Holds reply ["createAddOn", "addOn"] (.obj fields) ∧
    AddOn.ofJson (.obj fields) = .ok addOn

/-- The reply gives this token, which was issued. -/
def GivesToken (reply : Reply) (token : String) : Prop :=
  ∃ v, Holds reply ["createLimitedAccessToken", "limitedAccessToken", "token"] v ∧
    v.isPresent = true ∧ token = v.display

/-- The ids of the objects that a body lists, in order. -/
def listedIds (payload : List UInt8) : List String :=
  match Envelope.parse? payload with
  | some (.arr items) => (Json.objects items).map fun fields => (Fields.get fields "id").display
  | _ => []

/-- The reply says that it was done, and lists machines with these ids. -/
def GivesMachines (reply : Reply) (ids : List String) : Prop :=
  ∃ status payload, reply = .answered status payload ∧ (status = 200 ∨ status = 201) ∧
    ids = listedIds payload

/-! ## Reading them off the operations

  One law for each operation, as an equivalence: it returns what its reply gives. -/

namespace Platform

/-- An object is taken as it is; anything else is refused here. -/
theorem given_objectOr_eq_ok {fault : ApiFault} {v w : Json} {reply : Reply}
    (h : (objectOr fault v).given reply = .ok w) : ∃ fields, v = .obj fields ∧ w = .obj fields := by
  unfold objectOr at h
  split at h
  · rename_i fields
    cases h
    exact ⟨fields, rfl, rfl⟩
  · cases h

/-- What the data of an accepted reply lead to, the reply holds. -/
theorem holds_of_dataOf {reply : Reply} {data : Fields} {key : String} {path : List String}
    {w : Json} (hdata : dataOf reply = .ok data) (h : (Fields.get data key).LeadsTo path w) :
    Holds reply (key :: path) w :=
  ⟨data, hasData_of_dataOf hdata, data, rfl, h⟩

/-- **The data of a reply**: its status, its errors that are nothing, and an object under `data`. -/
theorem dataOf_eq_ok {reply : Reply} {data : Fields} :
    dataOf reply = .ok data ↔ HasData reply data := by
  refine ⟨hasData_of_dataOf, ?_⟩
  rintro ⟨payload, rfl, hnone, hdata⟩
  simp [dataOf, Envelope.read, hnone, hdata]

theorem exists_dataOf {reply : Reply} {key : String} {path : List String} {w : Json}
    (h : Holds reply (key :: path) w) :
    ∃ data, dataOf reply = .ok data ∧ (Fields.get data key).LeadsTo path w := by
  obtain ⟨data, hdata, hpath⟩ := h
  exact ⟨data, dataOf_eq_ok.mpr hdata, hpath.step⟩

/-- A step along a path finds what stands there. -/
theorem memberOfPresent_of_leadsTo {v w : Json} {key : String} {path : List String}
    (h : v.LeadsTo (key :: path) w) : ∃ u, v.memberOfPresent key = .ok u ∧ u.LeadsTo path w := by
  obtain ⟨fields, rfl, hpath⟩ := h
  exact ⟨_, memberOfPresent_obj fields key, hpath⟩

variable {reply : Reply}

section Records

variable {α : Type} {q : Query} {fault : ApiFault} {readRecord : Json → Except ShapeFault α}
  {record : α} {key : String}

/-- **A record is returned** exactly if it is read from the object under its key. -/
theorem given_found_iff :
    (query q >>= fun data => objectOr fault (Fields.get data key) >>= fun found =>
      Procedure.ofShape (readRecord found)).given reply = .ok record ↔
        ∃ fields, Holds reply [key] (.obj fields) ∧ readRecord (.obj fields) = .ok record := by
  simp only [Procedure.given_then, given_query, Procedure.given_ofShape]
  constructor
  · intro h
    simp only [bind_eq_ok, mapError_eq_ok] at h
    obtain ⟨data, hdata, v, hobject, hread⟩ := h
    obtain ⟨fields, hfields, rfl⟩ := given_objectOr_eq_ok hobject
    exact ⟨fields, holds_of_dataOf hdata hfields, hread⟩
  · rintro ⟨fields, hholds, hread⟩
    obtain ⟨data, hdata, hfields⟩ := exists_dataOf hholds
    have hfields : Fields.get data key = .obj fields := hfields
    rw [hdata]
    show (objectOr fault (Fields.get data key)).given reply >>= _ = _
    rw [hfields]
    exact mapError_eq_ok.mpr hread

/-- **What was created is returned** exactly if it is read from the object under its key, in what
    stands under the mutation. -/
theorem given_created_iff {mutation : String} :
    (query q >>= fun data => Procedure.ofShape ((Fields.get data mutation).memberOfPresent key) >>=
      fun created => objectOr fault created >>= fun created =>
        Procedure.ofShape (readRecord created)).given reply = .ok record ↔
          ∃ fields, Holds reply [mutation, key] (.obj fields) ∧
            readRecord (.obj fields) = .ok record := by
  simp only [Procedure.given_then, given_query, Procedure.given_ofShape]
  -- each step of the operation is one step of the path, in both directions
  constructor
  · intro h
    simp only [bind_eq_ok, mapError_eq_ok] at h
    obtain ⟨data, hdata, v, hmember, w, hobject, hread⟩ := h
    obtain ⟨fields, rfl, rfl⟩ := given_objectOr_eq_ok hobject
    have hpath := Json.leadsTo_of_memberOfPresent hmember (fun hnull => by cases hnull)
    exact ⟨fields, holds_of_dataOf hdata hpath, hread⟩
  · rintro ⟨fields, hholds, hread⟩
    obtain ⟨data, hdata, hpath⟩ := exists_dataOf hholds
    obtain ⟨_, hcreated, rfl⟩ := memberOfPresent_of_leadsTo hpath
    rw [hdata]
    show ((Fields.get data mutation).memberOfPresent key).mapError Fault.shape >>= _ = _
    rw [hcreated]
    exact mapError_eq_ok.mpr hread

end Records

/-- The look-up of an app returns what its reply gives, and so do the three operations after it: a
    record that is found or created is read in one way (`given_found_iff`, `given_created_iff`). -/
theorem given_app_iff {name : String} {found : App} :
    (app name).given reply = .ok found ↔ GivesApp reply found := given_found_iff

theorem given_createApp_iff {organizationId name : String} {role : Option String} {machines : Bool}
    {created : App} :
    (createApp organizationId name role machines).given reply = .ok created ↔
      GivesNewApp reply created := given_created_iff

theorem given_addOn_iff {name : String} {found : AddOn} :
    (addOn name).given reply = .ok found ↔ GivesAddOn reply found := given_found_iff

theorem given_createAddOn_iff {organizationId name appId addOnType : String} {created : AddOn} :
    (createAddOn organizationId name appId addOnType).given reply = .ok created ↔
      GivesNewAddOn reply created := given_created_iff

/-- **The first of the shippers that are read is that of the first node.**  The others may be what
    they like, as long as they can be read. -/
theorem givesShipper_of_ok {role organizationId : String} {shipper : App} {others : List App}
    (h : (appsByRole role organizationId).given reply = .ok (shipper :: others)) :
    GivesShipper reply shipper := by
  simp only [appsByRole, Procedure.given_then, given_query, Procedure.given_ofShape, bind_eq_ok,
    mapError_eq_ok] at h
  obtain ⟨data, hdata, nodes, hnodes, entries, hentries, hread⟩ := h
  have hall := mapM_ok_iff.mp hread
  -- the apps that are read are as many as the objects, so there is a first object
  cases hobjects : Json.objects entries with
  | nil =>
    rw [hobjects] at hall
    cases hall
  | cons fields rest =>
    rw [hobjects] at hall
    have hne : Json.objects entries ≠ [] := by
      rw [hobjects]
      exact List.cons_ne_nil _ _
    have harr := Json.eq_arr_of_objects_ne_nil hentries hne
    subst harr
    have hpath := Json.leadsTo_of_memberOfPresent hnodes (fun hnull => by cases hnull)
    exact ⟨entries, fields, rest, holds_of_dataOf hdata hpath, hobjects,
      (List.forall₂_cons.mp hall).1⟩

/-- Where the data have a list of apps, what is read is the list. -/
theorem given_appsByRole_of_holds {role organizationId : String} {nodes : List Json}
    (h : Holds reply ["apps", "nodes"] (.arr nodes)) :
    (appsByRole role organizationId).given reply =
      ((Json.objects nodes).mapM fun fields => App.ofJson (.obj fields)).mapError .shape := by
  obtain ⟨data, hdata, hpath⟩ := exists_dataOf h
  obtain ⟨_, hnodes, rfl⟩ := memberOfPresent_of_leadsTo hpath
  simp only [appsByRole, Procedure.given_then, given_query, Procedure.given_ofShape, hdata]
  show ((Fields.get data "apps").memberOfPresent "nodes").mapError Fault.shape >>= _ = _
  rw [hnodes]
  show ((Json.arr nodes).orElse (.arr [])).elements.mapError Fault.shape >>= _ = _
  rw [elements_orElse_arr]
  rfl

/-- **The token that is issued is what its reply gives**, two objects deep.  Each step might be
    taken over nothing at all, but then no token would be there at the end. -/
theorem given_createToken_iff {name organizationId profile : String} {params : Json}
    {expiry : Option String} {token : String} :
    (createToken name organizationId profile params expiry).given reply = .ok token ↔
      GivesToken reply token := by
  constructor
  · intro h
    simp only [createToken, Procedure.given_then, given_query, Procedure.given_ofShape,
      given_textOfPresent, bind_eq_ok, mapError_eq_ok] at h
    obtain ⟨data, hdata, issued, hissued, v, hv, htext⟩ := h
    split at htext
    · rename_i hpresent
      cases htext
      have hnull : v ≠ .null := by
        rintro rfl
        cases hpresent
      have hinner := Json.leadsTo_of_memberOfPresent hv hnull
      -- a present token stands in an object, which is no null either
      have hissuedNull : issued ≠ .null := by
        rintro rfl
        obtain ⟨fields, hobj, -⟩ := hinner
        cases hobj
      have houter := Json.leadsTo_of_memberOfPresent hissued hissuedNull
      exact ⟨v, holds_of_dataOf hdata (houter.append hinner), hpresent, rfl⟩
    · cases htext
  · rintro ⟨v, hholds, hpresent, rfl⟩
    obtain ⟨data, hdata, hpath⟩ := exists_dataOf hholds
    -- the other way the path is there, so no step is taken over nothing
    obtain ⟨issued, hissued, hinner⟩ := memberOfPresent_of_leadsTo hpath
    obtain ⟨_, htoken, rfl⟩ := memberOfPresent_of_leadsTo hinner
    simp only [createToken, Procedure.given_then, given_query, Procedure.given_ofShape,
      given_textOfPresent, hdata]
    show ((Fields.get data "createLimitedAccessToken").memberOfPresent
      "limitedAccessToken").mapError
      Fault.shape >>= _ = _
    rw [hissued]
    show (issued.memberOfPresent "token").mapError Fault.shape >>= _ = _
    rw [htoken]
    exact if_pos hpresent

/-- Where the data have a code for the region, what is read is the code. -/
theorem given_nearestRegion_of_holds {v : Json} (h : Holds reply ["nearestRegion", "code"] v)
    (hpresent : v.isPresent = true) : nearestRegion.given reply = .ok v.display := by
  obtain ⟨data, hdata, hpath⟩ := exists_dataOf h
  obtain ⟨_, hcode, rfl⟩ := memberOfPresent_of_leadsTo hpath
  simp only [nearestRegion, Procedure.given_then, given_query, Procedure.given_ofShape,
    given_textOfPresent, hdata]
  show ((Fields.get data "nearestRegion").memberOfPresent "code").mapError Fault.shape >>= _ = _
  rw [hcode]
  exact if_pos hpresent

end Platform

namespace Machines

/-- The machines that are read have the ids of the entries, in their order. -/
theorem map_id_of_mapM {app : String} {call : MachineCall} {entries : List Fields}
    {machines : List Machine} (h : entries.mapM (machine app call) = .ok machines) :
    machines.map (·.id) = entries.map fun fields => (Fields.get fields "id").display := by
  have hall := mapM_ok_iff.mp h
  clear h
  induction hall with
  | nil => rfl
  | cons hmachine _ ih =>
    rw [List.map_cons, List.map_cons, ih, (machine_id hmachine).2]

/-- **The machines listed have the ids that the body lists.** -/
theorem givesMachines_of_list {app : String} {reply : Reply} {machines : List Machine}
    (h : (list app).given reply = .ok machines) : GivesMachines reply (machines.map (·.id)) := by
  obtain ⟨status, payload, hreply, hstatus, hread⟩ := readList_of_list h
  have hcode : status = 200 ∨ status = 201 := by
    simpa [isAccepted] using hstatus
  refine ⟨status, payload, hreply, hcode, ?_⟩
  unfold readList payloadValue? at hread
  unfold listedIds
  -- nothing, an array, and any other value: the ids are listed from the array only
  by_cases hpayload : payload = []
  · subst hpayload
    rw [if_pos rfl] at hread
    cases hread
    rfl
  · rw [if_neg hpayload] at hread
    split at hread
    · cases hread
    · rename_i items hparse
      rw [hparse]
      exact map_id_of_mapM hread
    · rename_i v hother hparse
      cases hread
      rw [hparse]
      split
      · rename_i items hitems
        cases hitems
        exact absurd rfl (hother items)
      · rfl

end Machines

end LogDrain
