/-
  RECORDS: what a reply says about the remote side's records is what the operation returns.

  A value shows a record if the record's parts stand where they belong in it (`ShowsApp`,
  `ShowsAddOn`, `ShowsMachine`); whatever else stands in it does not matter.  A body conveys a
  record to an operation if its data lead to a value that shows the record (`Conveys`, one case for
  each operation that returns something).  It may have more:

    * other fields, at every level, with any values;
    * entries without fields among the nodes or the machines of a list;
    * errors that are nothing: null, false, zero, or empty.

  Bodies are written and read (`Cloud.jsonReply`), so what arrives is the value with its numbers of
  the 64 bit format read anew (`Json.reread`).  No text, key or place is changed by that, and
  nothing stays nothing; so what is shown stays shown.

  The two sides do not mention each other: what a value shows is said by paths alone, and what an
  operation returns is what the operation does.  One lemma for each record (`App.ofJson_of_shows`
  and the others) and one for each kind of operation carry the one over to the other.
-/
import LogDrain.Proofs.Cloud
import LogDrain.Proofs.Path

namespace LogDrain

/-! ## What is read of a value that was written

  A value is read anew when its text was written and read.  Texts, keys and places stay; numbers
  may be others, but a number that counts as nothing still does. -/

namespace Json

/-- What stands under a key of an object that was written is what stood there, read anew; a key that
    is not there is not there. -/
theorem get_rereadFields (fields : Fields) (key : String) :
    Fields.get (rereadFields fields) key = (Fields.get fields key).reread := by
  induction fields with
  | nil => rw [rereadFields, Fields.get, reread]
  | cons f fs ih =>
    obtain ⟨k, v⟩ := f
    rw [rereadFields, Fields.get, Fields.get, ih]
    split <;> rfl

/-- **Everything stands where it stood.** -/
theorem LeadsTo.reread {v w : Json} {path : List String} (h : v.LeadsTo path w) :
    v.reread.LeadsTo path w.reread := by
  induction path generalizing v with
  | nil =>
    cases h
    rfl
  | cons key path ih =>
    obtain ⟨fields, rfl, h⟩ := h
    refine ⟨rereadFields fields, by rw [Json.reread], ?_⟩
    rw [get_rereadFields]
    exact ih h

/-- The objects of a list stay the objects. -/
theorem objects_rereadItems (items : List Json) :
    objects (rereadItems items) = (objects items).map rereadFields := by
  induction items with
  | nil => rfl
  | cons v vs ih =>
    unfold objects at ih ⊢
    rw [rereadItems, List.filterMap_cons, List.filterMap_cons, ih]
    cases v <;> simp [reread, fields?]

/-- **Nothing stays nothing.** -/
theorem isPresent_reread {v : Json} (h : v.isPresent = false) : v.reread.isPresent = false := by
  cases v with
  | null | bool | int | str => simpa only [reread] using h
  | real x =>
    have hzero : x.isZero = true := by simpa [isPresent] using h
    simp [reread, isPresent, isZero_rereadReal hzero]
  | arr items =>
    have hnil : items = [] := by simpa [isPresent] using h
    subst hnil
    rfl
  | obj fields =>
    have hnil : fields = [] := by simpa [isPresent] using h
    subst hnil
    rfl

/-- A field of the envelope is read anew as well; it is empty if the body is no object. -/
theorem field_reread (v : Json) (key : String) :
    Envelope.field v.reread key = (Envelope.field v key).reread := by
  cases v with
  | obj fields =>
    rw [reread]
    exact get_rereadFields fields key
  | _ => simp only [reread, Envelope.field]

theorem reread_ofText? (text : Option String) : (ofText? text).reread = ofText? text := by
  cases text <;> rfl

/-- A text that may be left out is read as what was written of it. -/
theorem optionalText_ofText? (field : String) (text : Option String) :
    (ofText? text).optionalText field = .ok text := by
  cases text <;> rfl

/-! ## Values that show a record

  What it is for a value to show a record, field by field, with anything else in it. -/

/-- The value shows the app, which has a raw slug. -/
structure ShowsApp (v : Json) (app : App) : Prop where
  id : v.LeadsTo ["id"] (.str app.id)
  name : v.LeadsTo ["name"] (.str app.name)
  organizationId : v.LeadsTo ["organization", "id"] (.str app.organization.id)
  slug : v.LeadsTo ["organization", "slug"] (.str app.organization.slug)
  rawSlug : v.LeadsTo ["organization", "rawSlug"] (.str app.organization.rawSlug)
  hasRawSlug : app.organization.rawSlug ≠ ""

/-- The value shows the add-on. -/
structure ShowsAddOn (v : Json) (addOn : AddOn) : Prop where
  id : v.LeadsTo ["id"] (.ofText? addOn.id)
  name : v.LeadsTo ["name"] (.str addOn.name)
  token : v.LeadsTo ["token"] (.str addOn.token)

/-- The value shows the machine, which has an id. -/
structure ShowsMachine (v : Json) (machine : Machine) : Prop where
  id : v.LeadsTo ["id"] (.str machine.id)
  name : v.LeadsTo ["name"] (.ofText? machine.name)
  state : v.LeadsTo ["state"] (.ofText? machine.state)
  region : v.LeadsTo ["region"] (.ofText? machine.region)
  image : v.LeadsTo ["config", "image"] (.ofText? machine.image)
  hasId : machine.id ≠ ""

variable {v : Json}

/-- What shows an app, an add-on or a machine still shows it when it is read anew: the parts are
    texts, and of the other fields nothing is said. -/
theorem ShowsApp.reread {app : App} (h : v.ShowsApp app) : v.reread.ShowsApp app where
  id := h.id.reread
  name := h.name.reread
  organizationId := h.organizationId.reread
  slug := h.slug.reread
  rawSlug := h.rawSlug.reread
  hasRawSlug := h.hasRawSlug

theorem ShowsAddOn.reread {addOn : AddOn} (h : v.ShowsAddOn addOn) : v.reread.ShowsAddOn addOn where
  id := reread_ofText? addOn.id ▸ h.id.reread
  name := h.name.reread
  token := h.token.reread

theorem ShowsMachine.reread {machine : Machine} (h : v.ShowsMachine machine) :
    v.reread.ShowsMachine machine where
  id := h.id.reread
  name := reread_ofText? machine.name ▸ h.name.reread
  state := reread_ofText? machine.state ▸ h.state.reread
  region := reread_ofText? machine.region ▸ h.region.reread
  image := reread_ofText? machine.image ▸ h.image.reread
  hasId := h.hasId

/-- Those of the values that have fields show the records, in order. -/
def ShowAll {α : Type} (shown : Json → α → Prop) (values : List Json) (records : List α) : Prop :=
  List.Forall₂ (fun fields record => shown (.obj fields) record) (objects values) records

/-- And a list that shows records shows them anew, in their order. -/
theorem ShowAll.reread {α : Type} {shown : Json → α → Prop} {values : List Json} {records : List α}
    (hshown : ∀ v record, shown v record → shown v.reread record)
    (h : ShowAll shown values records) : ShowAll shown (rereadItems values) records := by
  unfold ShowAll
  rw [objects_rereadItems, List.forall₂_map_left_iff]
  exact h.imp fun fields record hfields => hshown (.obj fields) record hfields

end Json

/-! ## Records written as values -/

theorem AddOn.shows_toJson (addOn : AddOn) : addOn.toJson.ShowsAddOn addOn where
  id := ⟨_, rfl, rfl⟩
  name := ⟨_, rfl, rfl⟩
  token := ⟨_, rfl, rfl⟩

/-- A machine that is sent as a value is shown by it, if it has an id; so is an add-on in any
    case. -/
theorem Machine.shows_toJson {machine : Machine} (h : machine.id ≠ "") :
    machine.toJson.ShowsMachine machine where
  id := ⟨_, rfl, rfl⟩
  name := ⟨_, rfl, rfl⟩
  state := ⟨_, rfl, rfl⟩
  region := ⟨_, rfl, rfl⟩
  image := ⟨_, rfl, _, rfl, rfl⟩
  hasId := h

/-- Machines written one after the other are all shown. -/
theorem Machine.showAll_toJson {machines : List Machine} (h : ∀ m ∈ machines, m.id ≠ "") :
    Json.ShowAll Json.ShowsMachine (machines.map Machine.toJson) machines := by
  induction machines with
  | nil => exact .nil
  | cons m machines ih =>
    exact .cons (Machine.shows_toJson (h m List.mem_cons_self))
      (ih fun other hother => h other (List.mem_cons_of_mem _ hother))

/-! ## Reading what is shown

  The readers return what is shown, whatever else there is. -/

/-- **The app that is shown is read.** -/
theorem App.ofJson_of_shows {v : Json} {app : App} (h : v.ShowsApp app) :
    App.ofJson v = .ok app := by
  obtain ⟨fields, rfl⟩ := h.id.exists_fields
  have hid := h.id.get_eq
  have hname := h.name.get_eq
  have hownerId := h.organizationId.step
  obtain ⟨owner, howner⟩ := hownerId.exists_fields
  have hslug := h.slug.step
  have hrawSlug := h.rawSlug.step
  rw [howner] at hownerId hslug hrawSlug
  -- the organization is an object, so it is not replaced by one without fields
  have hobject : (Json.obj owner).orElse (.obj []) = .obj owner := by
    cases owner <;> rfl
  have hraw : (Json.str app.organization.rawSlug).isPresent = true := by
    simp [Json.isPresent, h.hasRawSlug]
  have horganization : Organization.ofJson (.obj owner) = .ok app.organization := by
    simp only [Organization.ofJson, Json.member, hownerId.get_eq, hslug.get_eq, hrawSlug.get_eq,
      Json.orElse, hraw, if_pos, bind, Except.bind]
    rfl
  simp only [App.ofJson, Json.member, hid, hname, howner, hobject, horganization, bind, Except.bind]
  rfl

/-- **The add-on that is shown is read.** -/
theorem AddOn.ofJson_of_shows {v : Json} {addOn : AddOn} (h : v.ShowsAddOn addOn) :
    AddOn.ofJson v = .ok addOn := by
  obtain ⟨fields, rfl⟩ := h.id.exists_fields
  have htoken : ((Json.str addOn.token).orElse (.str "")).display = addOn.token := by
    unfold Json.orElse
    split
    · rfl
    · rename_i hnone
      have hempty : addOn.token = "" := by simpa [Json.isPresent] using hnone
      rw [hempty]
      rfl
  simp only [AddOn.ofJson, Json.member, h.id.get_eq, h.name.get_eq, h.token.get_eq, htoken,
    Json.optionalText_ofText?, bind, Except.bind]
  rfl

/-- **The machine that is shown is read.** -/
theorem Machines.machine_of_shows {app : String} {call : MachineCall} {fields : Fields}
    {m : Machine} (h : (Json.obj fields).ShowsMachine m) : machine app call fields = .ok m := by
  have hid : (Json.str m.id).isPresent = true := by simp [Json.isPresent, h.hasId]
  have himage := h.image.step
  obtain ⟨config, hconfig⟩ := himage.exists_fields
  rw [hconfig] at himage
  unfold machine
  rw [h.id.get_eq, if_pos hid]
  simp only [Machine.ofJson, Json.member, h.id.get_eq, h.name.get_eq, h.state.get_eq,
    h.region.get_eq, hconfig, himage.get_eq, Json.optionalText_ofText?, bind, Except.bind]
  rfl

/-! ## Bodies

  A body tells a value if a path leads to it, with errors that are nothing.  The two differ for
  the two APIs: the one has an envelope, and the other the value itself. -/

/-- The body can be written, has no errors, and its data lead along the path to the value. -/
structure Tells (body : Json) (path : List String) (w : Json) : Prop where
  isWritable : body.IsWritable
  noErrors : (Envelope.field body "errors").isPresent = false
  leads : body.LeadsTo ("data" :: path) w

/-- **What a body tells holds of the reply.** -/
theorem Tells.holds {body w : Json} {key : String} {path : List String}
    (h : Tells body (key :: path) w) : Holds (Cloud.jsonReply body) (key :: path) w.reread := by
  have hread := Cloud.body_bodyOf_eq h.isWritable
  have hpath := h.leads.reread
  obtain ⟨fields, hfields⟩ := hpath.exists_fields
  rw [hfields] at hpath
  obtain ⟨data, hdata⟩ := hpath.step.exists_fields
  refine ⟨data, ⟨Cloud.bodyOf body, rfl, ?_, ?_⟩, hdata ▸ hpath.step⟩
  · rw [hread, Json.field_reread]
    exact Json.isPresent_reread h.noErrors
  · rw [hread, hfields]
    exact hdata

/-- **A body that tells an app gives it**: the path holds in the reply, and the app is read at its
    end. -/
theorem Tells.gives_app {body v : Json} {key : String} {path : List String} {app : App}
    (h : Tells body (key :: path) v) (hshows : v.ShowsApp app) :
    ∃ fields, Holds (Cloud.jsonReply body) (key :: path) (.obj fields) ∧
      App.ofJson (.obj fields) = .ok app := by
  have hread := App.ofJson_of_shows hshows.reread
  obtain ⟨fields, hfields⟩ := hshows.reread.id.exists_fields
  rw [hfields] at hread
  exact ⟨fields, hfields ▸ h.holds, hread⟩

theorem Tells.gives_addOn {body v : Json} {key : String} {path : List String} {addOn : AddOn}
    (h : Tells body (key :: path) v) (hshows : v.ShowsAddOn addOn) :
    ∃ fields, Holds (Cloud.jsonReply body) (key :: path) (.obj fields) ∧
      AddOn.ofJson (.obj fields) = .ok addOn := by
  have hread := AddOn.ofJson_of_shows hshows.reread
  obtain ⟨fields, hfields⟩ := hshows.reread.id.exists_fields
  rw [hfields] at hread
  exact ⟨fields, hfields ▸ h.holds, hread⟩

/-- The body conveys the record to the operation that asks the call. -/
inductive Conveys (body : Json) : {α : Type} → Call → Procedure α → α → Prop
  | app {v : Json} {found : App} (name : String) :
      Tells body ["app"] v → v.ShowsApp found →
        Conveys body (.query (.app name)) (Platform.app name) found
  | appsByRole {nodes : List Json} {apps : List App} (role organizationId : String) :
      Tells body ["apps", "nodes"] (.arr nodes) → Json.ShowAll Json.ShowsApp nodes apps →
        Conveys body (.query (.appsByRole role organizationId))
          (Platform.appsByRole role organizationId) apps
  | createApp {v : Json} {created : App} (organizationId name : String) (role : Option String)
      (machines : Bool) :
      Tells body ["createApp", "app"] v → v.ShowsApp created →
        Conveys body (.query (.createApp organizationId name role machines))
          (Platform.createApp organizationId name role machines) created
  | addOn {v : Json} {found : AddOn} (name : String) :
      Tells body ["addOn"] v → v.ShowsAddOn found →
        Conveys body (.query (.addOn name)) (Platform.addOn name) found
  | createAddOn {v : Json} {created : AddOn} (organizationId name appId addOnType : String) :
      Tells body ["createAddOn", "addOn"] v → v.ShowsAddOn created →
        Conveys body (.query (.createAddOn organizationId name appId addOnType))
          (Platform.createAddOn organizationId name appId addOnType) created
  | createToken {token : String} (name organizationId profile : String) (params : Json)
      (expiry : Option String) :
      Tells body ["createLimitedAccessToken", "limitedAccessToken", "token"] (.str token) →
        token ≠ "" →
        Conveys body (.query (.createToken name organizationId profile params expiry))
          (Platform.createToken name organizationId profile params expiry) token
  | nearestRegion {code : String} :
      Tells body ["nearestRegion", "code"] (.str code) → code ≠ "" →
        Conveys body (.query .nearestRegion) Platform.nearestRegion code
  | list {items : List Json} {machines : List Machine} (app : String) :
      body.IsWritable → body = .arr items → Json.ShowAll Json.ShowsMachine items machines →
        Conveys body (.machines app .list) (Machines.list app) machines
  | launch {made : Machine} (app : String) (what : Launch) :
      body.IsWritable → body.ShowsMachine made →
        Conveys body (.machines app (.launch what)) (Machines.launch app what) made

namespace Machines

variable {app : String}

/-- The body of a reply that was written is read as a value. -/
theorem given_then_ask {α : Type} {call : MachineCall} {body : Json}
    {f : List UInt8 → Procedure α} : (ask app call >>= f).given (Cloud.jsonReply body) =
      (f (Cloud.bodyOf body)).given (Cloud.jsonReply body) := by
  rw [Procedure.given_then, given_ask]
  rfl

/-- A body that was written is not empty, so its value is read and not the one that stands for
    nothing. -/
theorem payloadValue?_bodyOf {body : Json} (whenEmpty : Json) (h : body.IsWritable) :
    payloadValue? whenEmpty (Cloud.bodyOf body) = some body.reread := by
  rw [payloadValue?, if_neg (Cloud.bodyOf_ne_nil _), Cloud.parse?_bodyOf_eq h]

/-- **The machines that a body shows are listed.** -/
theorem given_list_of_shows {items : List Json} {machines : List Machine}
    (hwritable : (Json.arr items).IsWritable) (h : Json.ShowAll Json.ShowsMachine items machines) :
    (list app).given (Cloud.jsonReply (.arr items)) = .ok machines := by
  unfold list
  rw [given_then_ask, Procedure.given_ofExcept, readList, payloadValue?_bodyOf _ hwritable,
    Json.reread]
  refine mapM_ok_iff.mpr ((h.reread fun _ _ hv => hv.reread).imp ?_)
  exact fun fields made hmade => machine_of_shows hmade

/-- **The machine that a body shows is the one launched.** -/
theorem given_launch_of_shows {what : Launch} {body : Json} {made : Machine}
    (hwritable : body.IsWritable) (h : body.ShowsMachine made) :
    (launch app what).given (Cloud.jsonReply body) = .ok made := by
  obtain ⟨fields, hfields⟩ := h.reread.id.exists_fields
  have hread := h.reread
  unfold launch
  rw [given_then_ask, Procedure.given_ofExcept, readLaunch, payloadValue?_bodyOf _ hwritable]
  rw [hfields] at hread ⊢
  exact machine_of_shows hread

end Machines

/-! ## What is conveyed is returned

  One case for each operation that returns something, each from its own law. -/

section Returned

variable {α : Type} {body : Json} {call : Call} {p : Procedure α} {record : α}

/-- Whatever is conveyed, it is by one reply to one call. -/
theorem Conveys.asksOnce (h : Conveys body call p record) : Procedure.AsksOnce call p := by
  cases h with
  | app name => exact Platform.asksOnce_app name
  | appsByRole role organizationId => exact Platform.asksOnce_appsByRole role organizationId
  | createApp organizationId name role machines =>
    exact Platform.asksOnce_createApp organizationId name role machines
  | addOn name => exact Platform.asksOnce_addOn name
  | createAddOn organizationId name appId addOnType =>
    exact Platform.asksOnce_createAddOn organizationId name appId addOnType
  | createToken name organizationId profile params expiry =>
    exact Platform.asksOnce_createToken name organizationId profile params expiry
  | nearestRegion => exact Platform.asksOnce_nearestRegion
  | list app => exact Machines.asksOnce_list app
  | launch app what => exact Machines.asksOnce_launch app what

/-- The reply gives the record to the operation. -/
theorem Conveys.given (h : Conveys body call p record) :
    p.given (Cloud.jsonReply body) = .ok record := by
  have hpresent : ∀ {s : String}, s ≠ "" → (Json.str s).isPresent = true := by
    intro s hs
    simp [Json.isPresent, hs]
  -- case by case, each operation returns what its path leads to
  cases h with
  | app name tells hshows => exact Platform.given_app_iff.mpr (tells.gives_app hshows)
  | appsByRole role organizationId tells hshows =>
    have hread := (hshows.reread fun _ _ hv => hv.reread).imp fun _ _ hone =>
      App.ofJson_of_shows hone
    rw [Platform.given_appsByRole_of_holds tells.holds, mapError_eq_ok]
    exact mapM_ok_iff.mpr hread
  | createApp organizationId name role machines tells hshows =>
    exact Platform.given_createApp_iff.mpr (tells.gives_app hshows)
  | addOn name tells hshows => exact Platform.given_addOn_iff.mpr (tells.gives_addOn hshows)
  | createAddOn organizationId name appId addOnType tells hshows =>
    exact Platform.given_createAddOn_iff.mpr (tells.gives_addOn hshows)
  | createToken name organizationId profile params expiry tells htoken =>
    exact Platform.given_createToken_iff.mpr ⟨_, tells.holds, hpresent htoken, rfl⟩
  | nearestRegion tells hcode =>
    exact Platform.given_nearestRegion_of_holds tells.holds (hpresent hcode)
  | list app hwritable hitems hshows =>
    subst hitems
    exact Machines.given_list_of_shows hwritable hshows
  | launch app what hwritable hshows => exact Machines.given_launch_of_shows hwritable hshows

/-- **An operation returns exactly the record that the reply conveys**, whoever replies, and
    whatever else stands in the reply. -/
theorem returns_what_is_conveyed {σ : Type} (respond : σ → Call → Reply × σ) (s : σ)
    (h : Conveys body call p record) (hreply : (respond s call).1 = Cloud.jsonReply body) :
    (p.run respond s).result = .ok record := by
  rw [h.asksOnce.result_run, hreply, h.given]

end Returned

/-! ## An app amid other things -/

namespace Crowded

/-- The app that is looked for. -/
def app : App := ⟨"app_1", "acme-logs", ⟨"org_1", "personal", "ada-\"é😀\""⟩⟩

/-- The app with more fields, between values that are no apps; the errors are zero. -/
def body : Json :=
  .obj [("errors", .real (.zero true)), ("took", .real (.ofDecimal false 15 (-1))),
    ("data", .obj [("apps", .obj
      [("total", .int 1),
       ("nodes", .arr [.real .nan, .str "app",
          .obj [("weight", .real (.infinite true)), ("name", .str app.name), ("id", .str app.id),
                ("organization", .obj [("rawSlug", .str app.organization.rawSlug),
                  ("slug", .str app.organization.slug), ("owners", .arr [.null]),
                  ("id", .str app.organization.id)])],
          .arr [app.toJson]])])])]

/-- The body below can be written: its numbers are short enough to be read. -/
theorem isWritable_body : body.IsWritable := by
  have htotal : (Nat.toDigits 10 (1 : Int).natAbs).length ≤ Json.maxIntegerDigits := by decide
  simp only [body, Json.IsWritable, Json.AreWritable, Json.HaveWritable, App.toJson,
    Organization.toJson, htotal]
  decide

/-- **It conveys the app**, amid a node without fields, an entry that is no object, errors that are
    nothing and fields of no use. -/
theorem conveys_body (role organizationId : String) :
    Conveys body (.query (.appsByRole role organizationId))
      (Platform.appsByRole role organizationId) [app] := by
  refine .appsByRole role organizationId ⟨isWritable_body, rfl, _, rfl, _, rfl, _, rfl, rfl⟩
    (.cons ⟨⟨_, rfl, rfl⟩, ⟨_, rfl, rfl⟩, ⟨_, rfl, _, rfl, rfl⟩, ⟨_, rfl, _, rfl, rfl⟩,
      ⟨_, rfl, _, rfl, rfl⟩, by decide⟩ .nil)

end Crowded

/-- The app is returned, and nothing else. -/
theorem returns_app_amid_more :
    Conveys Crowded.body (.query (.appsByRole "logs" "org_1")) (Platform.appsByRole "logs" "org_1")
        [Crowded.app] ∧
      ((Platform.appsByRole "logs" "org_1").run Procedure.nextReply
        [Cloud.jsonReply Crowded.body]).result = .ok [Crowded.app] :=
  ⟨Crowded.conveys_body _ _,
    returns_what_is_conveyed Procedure.nextReply [Cloud.jsonReply Crowded.body]
      (Crowded.conveys_body "logs" "org_1") rfl⟩

end LogDrain
