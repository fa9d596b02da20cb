/-
  WHAT A SETUP HEARS FROM A CLOUD: each operation, given the cloud's own reply, ends with the record
  that the cloud holds.

  A record that is sent as a value is read as the same record, except that an organization without a
  raw slug is seen with its slug for one (`App.seen`).  What is made has to be worth something: ids,
  tokens and the region must not be empty, and an app whose machines are asked about needs a name
  that is not blank. `Minting.IsSound` says so of what is made up, `Cloud.IsSound` of what is held,
  and the second is kept by every call that names what it creates (`Cloud.IsSound.apply`), hence by
  every history of setups (`isSound_after_history`).
-/
import LogDrain.Proofs.Interruption
import LogDrain.Proofs.Records

namespace LogDrain

open Setup Procedure

/-! ## Records as they are seen

  The cloud holds records and the setup holds records, and between the two stands a JSON text.
  These laws say that nothing is lost on the way, except the difference between an organization
  without a raw slug and one whose slug is its raw slug. -/

@[simp] theorem Json.display_str (s : String) : (Json.str s).display = s := rfl

/-- The organization as it is read. -/
def Organization.seen (o : Organization) : Organization :=
  { o with rawSlug := if o.rawSlug = "" then o.slug else o.rawSlug }

/-- The app as it is read. -/
def App.seen (a : App) : App := { a with organization := a.organization.seen }

/-- **An organization is read from its value**, with its slug for a raw slug where it has none: an
    empty text counts as nothing there. -/
theorem Organization.ofJson_toJson (o : Organization) :
    Organization.ofJson o.toJson = .ok o.seen := by
  by_cases h : o.rawSlug = "" <;>
    simp [toJson, ofJson, Json.member, Fields.get, Json.orElse, Json.isPresent, seen, h,
      Bind.bind, Except.bind, pure, Except.pure]

/-- **An app is read from its value.** -/
theorem App.ofJson_toJson (a : App) : App.ofJson a.toJson = .ok a.seen := by
  have howner : (a.organization.toJson).orElse (.obj []) = a.organization.toJson := rfl
  simp only [toJson, ofJson, Json.member, Fields.get, Bind.bind, Except.bind]
  simp [howner, Organization.ofJson_toJson, seen, pure, Except.pure]

/-- **An add-on is read from its value.** -/
theorem AddOn.ofJson_toJson (a : AddOn) : AddOn.ofJson a.toJson = .ok a :=
    ofJson_of_shows a.shows_toJson

/-! ## The operations on the cloud's replies

  One law for each operation, under the name `given_` of the operation: given what the cloud
  replies to the operation's own call, this is the value it ends with.  All of them start from
  `given_query_dataReply` or from the body of a machine, so the text itself is read in one place. -/

namespace Cloud

variable {m : Minting} {c : Cloud} {data : Fields}

/-- The data of a reply with data. -/
theorem dataOf_dataReply (h : (Json.obj data).IsExact) :
    Platform.dataOf (dataReply data) = .ok data := by
  show Envelope.read 200 (bodyOf (.obj [("data", .obj data)])) = .ok data
  unfold Envelope.read
  rw [body_bodyOf (isExact_data h)]
  rfl

/-- The error of what was not found. -/
def notFoundError (what : String) : Fields :=
  [("message", .str ("Could not find " ++ what)),
   ("extensions", .obj [("code", .str Envelope.notFoundCode)])]

/-- What was not found is said to be so. -/
theorem dataOf_notFoundReply (what : String) :
    Platform.dataOf (notFoundReply what) =
      .error (.api (.notFound (Envelope.messages [notFoundError what]))) := by
  have hexact : (Json.obj [("errors", .arr [.obj (notFoundError what)]),
      ("data", .null)]).IsExact := by
    simp [notFoundError, Json.IsExact, Json.HaveExact, Json.AreExact]
  show Envelope.read 200 (bodyOf (.obj [("errors", .arr [.obj (notFoundError what)]),
    ("data", .null)])) = _
  unfold Envelope.read
  rw [body_bodyOf hexact]
  rfl

theorem isExact_single {key : String} {v : Json} (h : v.IsExact) :
    (Json.obj [(key, v)]).IsExact := by
  simp [Json.IsExact, Json.HaveExact, h]

/-- An operation that reads these data goes on with them. -/
theorem given_query_dataReply {α : Type} {q : Query} {f : Fields → Procedure α}
    (h : (Json.obj data).IsExact) :
    (Platform.query q >>= f).given (dataReply data) = (f data).given (dataReply data) := by
  rw [given_then, Platform.given_query, dataOf_dataReply h]
  rfl

theorem given_app {name : String} {a : App} (h : c.app? name = some a) :
    (Platform.app name).given (c.reply m (.query (.app name))) = .ok a.seen := by
  simp only [reply, h, Option.map_some, recordReply]
  unfold Platform.app
  rw [given_query_dataReply (isExact_single a.isExact_toJson)]
  show (ofShape (App.ofJson a.toJson)).given _ = _
  rw [given_ofShape, App.ofJson_toJson]
  rfl

/-- Apps that are sent one after the other are read one after the other: each is an object, so none
    is passed over. -/
theorem objects_map_toJson (apps : List App) :
    ∃ entries, Json.objects (apps.map App.toJson) = entries ∧
      entries.mapM (fun fields => App.ofJson (.obj fields)) = .ok (apps.map App.seen) := by
  refine ⟨_, rfl, ?_⟩
  induction apps with
  | nil => rfl
  | cons a apps ih =>
    show (_ :: Json.objects (apps.map App.toJson)).mapM _ = _
    rw [List.mapM_cons, ih]
    have hone := a.ofJson_toJson
    unfold App.toJson at hone
    rw [hone]
    rfl

/-- The look-up of the shippers: those that the cloud has, in its order. -/
theorem given_appsByRole {role organizationId : String} :
    (Platform.appsByRole role organizationId).given
    (c.reply m (.query (.appsByRole role organizationId))) =
      .ok ((c.roleApps role organizationId).map App.seen) := by
  have hnodes : (Json.arr ((c.roleApps role organizationId).map App.toJson)).IsExact := by
    rw [Json.IsExact]
    exact Json.areExact_map App.isExact_toJson _
  -- the entries are read as apps before the two steps down to them are opened
  obtain ⟨entries, hentries, hread⟩ := objects_map_toJson (c.roleApps role organizationId)
  unfold Platform.appsByRole
  show Procedure.given (dataReply _) _ = _
  rw [given_query_dataReply (isExact_single (isExact_single hnodes))]
  simp only [given_then, given_ofShape]
  show (((Json.arr ((c.roleApps role organizationId).map App.toJson)).orElse
    (.arr [])).elements.mapError Fault.shape >>= fun entries => _) = _
  rw [Platform.elements_orElse_arr]
  show Except.mapError Fault.shape ((Json.objects _).mapM _) = _
  rw [hentries, hread]
  rfl

/-- The creation of an app: what the cloud makes is what the setup goes on with. -/
theorem given_createApp {organizationId name : String} {role : Option String} {machines : Bool}
    {a : App} (h : c.newApp? m organizationId name = some a) :
    (Platform.createApp organizationId name role machines).given
      (c.reply m (.query (.createApp organizationId name role machines))) = .ok a.seen := by
  simp only [reply, h, Option.map_some, recordReply]
  unfold Platform.createApp
  rw [given_query_dataReply (isExact_single (isExact_single a.isExact_toJson))]
  show (ofShape (App.ofJson a.toJson)).given _ = _
  rw [given_ofShape, App.ofJson_toJson]
  rfl

theorem given_addOn {name : String} {a : AddOn} (h : c.addOns name = some a) :
    (Platform.addOn name).given (c.reply m (.query (.addOn name))) = .ok a := by
  simp only [reply, h, Option.map_some, recordReply]
  unfold Platform.addOn
  rw [given_query_dataReply (isExact_single a.isExact_toJson)]
  show (ofShape (AddOn.ofJson a.toJson)).given _ = _
  rw [given_ofShape, AddOn.ofJson_toJson]
  rfl

/-- An add-on that the cloud has not is told as not found, which is what makes a setup create it. -/
theorem given_addOn_of_none {name : String} (h : c.addOns name = none) :
    ∃ fault, (Platform.addOn name).given (c.reply m (.query (.addOn name))) = .error fault ∧
      fault.kind = .notFound := by
  simp only [reply, h, Option.map_none, recordReply]
  unfold Platform.addOn
  rw [given_then, Platform.given_query, dataOf_notFoundReply]
  exact ⟨_, rfl, rfl⟩

/-- The creation of an add-on, with the token that was made up for it. -/
theorem given_createAddOn {organizationId name appId addOnType : String} :
    (Platform.createAddOn organizationId name appId addOnType).given
      (c.reply m (.query (.createAddOn organizationId name appId addOnType))) =
        .ok (c.newAddOn m name) := by
  unfold Platform.createAddOn
  show Procedure.given (dataReply _) _ = _
  rw [given_query_dataReply (isExact_single (isExact_single (c.newAddOn m name).isExact_toJson))]
  show (ofShape (AddOn.ofJson (c.newAddOn m name).toJson)).given _ = _
  rw [given_ofShape, AddOn.ofJson_toJson]
  rfl

/-- The token that is issued has to be worth something, since an empty one is refused. -/
theorem given_createToken {name organizationId profile : String} {params : Json}
    {expiry : Option String} (h : m.accessToken c.made ≠ "") :
    (Platform.createToken name organizationId profile params expiry).given
      (c.reply m (.query (.createToken name organizationId profile params expiry))) =
        .ok (m.accessToken c.made) := by
  have htoken : (Json.str (m.accessToken c.made)).IsExact := by simp [Json.IsExact]
  unfold Platform.createToken
  show Procedure.given (dataReply _) _ = _
  rw [given_query_dataReply (isExact_single (isExact_single (isExact_single htoken)))]
  show (Platform.textOfPresent _ (.str (m.accessToken c.made))).given _ = _
  rw [Platform.given_textOfPresent, if_pos (by simp [Json.isPresent, h])]
  rfl

theorem given_setSecrets {appId : String} {secrets : List Secret} (h : secrets ≠ []) :
    (Platform.setSecrets appId secrets).given (c.reply m (.query (.setSecrets appId secrets))) =
      .ok () := by
  have hexact : (Json.obj [("setSecrets", .obj [("release", .null)])]).IsExact := by
    simp [Json.IsExact, Json.HaveExact]
  unfold Platform.setSecrets
  rw [if_neg h]
  show Procedure.given (dataReply _) _ = _
  rw [given_query_dataReply hexact]
  rfl

/-- The region that is near, if it has a name. -/
theorem given_nearestRegion (h : m.region ≠ "") :
    Platform.nearestRegion.given (c.reply m (.query .nearestRegion)) = .ok m.region := by
  have hcode : (Json.str m.region).IsExact := by simp [Json.IsExact]
  unfold Platform.nearestRegion
  show Procedure.given (dataReply _) _ = _
  rw [given_query_dataReply (isExact_single (isExact_single hcode))]
  show (Platform.textOfPresent _ (.str m.region)).given _ = _
  rw [Platform.given_textOfPresent, if_pos (by simp [Json.isPresent, h])]
  rfl

/-- The listing of the machines, if every one has an id; a machine without one would be refused. -/
theorem given_list {app : String} (h : ∀ machine ∈ c.machines app, machine.id ≠ "") :
    (Machines.list app).given (c.reply m (.machines app .list)) = .ok (c.machines app) := by
  have hexact : (Json.arr ((c.machines app).map Machine.toJson)).IsExact := by
    rw [Json.IsExact]
    exact Json.areExact_map Machine.isExact_toJson _
  exact Machines.given_list_of_shows hexact.reread_eq.1 (Machine.showAll_toJson h)

/-- The launch of a machine, which is given the next id. -/
theorem given_launch {app : String} {what : Launch} (h : m.machineId c.made ≠ "") :
    (Machines.launch app what).given (c.reply m (.machines app (.launch what))) =
      .ok (c.launched m what) :=
  Machines.given_launch_of_shows (c.launched m what).isExact_toJson.reread_eq.1
    (Machine.shows_toJson h)

theorem given_restart {app machineId : String} (h : machineId ≠ "") :
    (Machines.restart app machineId).given (c.reply m (.machines app (.restart machineId))) =
      .ok () := by
  unfold Machines.restart
  rw [if_neg h]
  show Procedure.given (jsonReply _) _ = _
  rw [Machines.given_then_ask]
  rfl

end Cloud

/-! ## Sound clouds

  A cloud is sound if what it holds can be worked with.  The invariant is kept call by call, by
  cases on the call; the only calls that could break it are those that create something without a
  name, and a setup makes none. -/

/-- What is made up is worth something. -/
structure Minting.IsSound (m : Minting) : Prop where
  machineId : ∀ n, m.machineId n ≠ ""
  accessToken : ∀ n, m.accessToken n ≠ ""
  addOnToken : ∀ name, m.addOnToken name ≠ ""
  region : m.region ≠ ""

/-- What is held is worth something: shippers have names that are not blank, add-ons have tokens and
    machines have ids. -/
structure Cloud.IsSound (c : Cloud) : Prop where
  shippers : ∀ organizationId, ∀ a ∈ c.roleApps shipperRole organizationId,
    Text.isBlankText a.name = false
  addOns : ∀ name a, c.addOns name = some a → a.token ≠ ""
  machines : ∀ app, ∀ machine ∈ c.machines app, machine.id ≠ ""

/-- An app that the call creates has a name that is not blank. -/
def Call.IsNamed : Call → Prop
  | .query (.createApp _ name _ _) => Text.isBlankText name = false
  | _ => True

/-- **A sound cloud stays one.** -/
theorem Cloud.IsSound.apply {m : Minting} {c : Cloud} {call : Call} (hm : m.IsSound) (h : c.IsSound)
    (hcall : call.IsNamed) : (c.apply m call).IsSound := by
  -- only the three creations add to what the soundness is about
  cases call with
  | machines app call =>
    cases call with
    | launch what =>
      refine ⟨h.shippers, h.addOns, fun other machine hmachine => ?_⟩
      by_cases happ : other = app
      · subst happ
        simp only [Cloud.apply, Function.update_self] at hmachine
        rcases List.mem_append.mp hmachine with hold | hnew
        · exact h.machines _ machine hold
        · rw [List.mem_singleton.mp hnew]
          exact hm.machineId _
      · simp only [Cloud.apply, Function.update_of_ne happ] at hmachine
        exact h.machines _ machine hmachine
    | _ => exact h
  | query q =>
    cases q with
    | createApp owner name role hasMachines =>
      simp only [Cloud.apply]
      cases hnew : c.newApp? m owner name with
      | none => exact h
      | some a =>
        refine ⟨fun organizationId b hb => ?_, h.addOns, h.machines⟩
        have hname : a.name = name := by
          obtain ⟨o, -, rfl⟩ := Option.map_eq_some_iff.mp hnew
          rfl
        have hold : ∀ b ∈ c.roleApps shipperRole organizationId ++ [a],
            Text.isBlankText b.name = false := by
          intro b hb
          rcases List.mem_append.mp hb with hold | hnew
          · exact h.shippers organizationId b hold
          · rw [List.mem_singleton.mp hnew, hname]
            exact hcall
        cases role with
        | none => exact h.shippers organizationId b hb
        | some role =>
          simp only [Function.update_apply] at hb
          split at hb
          · rename_i hrole
            subst hrole
            simp only [Function.update_apply] at hb
            split at hb
            · rename_i howner
              subst howner
              exact hold b hb
            · exact h.shippers organizationId b hb
          · exact h.shippers organizationId b hb
    | createAddOn owner name appId addOnType =>
      refine ⟨h.shippers, fun other a ha => ?_, h.machines⟩
      simp only [Cloud.apply, Function.update_apply] at ha
      split at ha
      · cases ha
        exact hm.addOnToken _
      · exact h.addOns other a ha
    | createToken name owner profile params expiry => exact ⟨h.shippers, h.addOns, h.machines⟩
    | setSecrets appId secrets => exact ⟨h.shippers, h.addOns, h.machines⟩
    | _ => exact h

/-! ## Setups name what they create

  The names that are made up are never blank, since each has a part that is not; so every creation
  of a setup is named, and this is checked move by move. -/

namespace Setup

/-- What the calls create has names. -/
def AreNamed (xs : List Exchange) : Prop := ∀ x ∈ xs, x.1.IsNamed

theorem AreNamed.append {xs ys : List Exchange} (hx : AreNamed xs) (hy : AreNamed ys) :
    AreNamed (xs ++ ys) := by
  intro x hmem
  rcases List.mem_append.mp hmem with hleft | hright
  · exact hx x hleft
  · exact hy x hright

/-- The name of a shipper is not blank, whatever its organization is called. -/
theorem isBlankText_shipperAppName (rawSlug : String) :
    Text.isBlankText (shipperAppName rawSlug) = false := by
  have hend : "-auto-log-shipper".toList.all Text.isBlank = false := by decide +kernel
  unfold Text.isBlankText shipperAppName
  rw [String.toList_append, List.all_append, hend, Bool.and_false]

theorem isNamed_of_not_creates {call : Call} (h : ¬ call.Creates) : call.IsNamed := by
  unfold Call.IsNamed
  split
  · exact absurd trivial h
  · trivial

/-- Each move of a setup names what it creates: a new shipper after its organization, an add-on
    after its app. -/
theorem Move.areNamed {xs : List Exchange} (h : Move xs) : AreNamed xs := by
  cases h with
  | lone hcall => simpa [AreNamed] using isNamed_of_not_creates hcall
  | addOn => simp [AreNamed, addOnCall, createAddOnCall, Call.IsNamed]
  | @shipper organization =>
    simp [AreNamed, shippersCall, createShipperCall, Call.IsNamed,
      isBlankText_shipperAppName organization.rawSlug]
  | machine => simp [AreNamed, listCall, regionCall, launchCall, Call.IsNamed]

/-- **What moves in a row create has names.** -/
theorem Moves.areNamed {xs : List Exchange} (h : Moves xs) : AreNamed xs :=
  h.closed nofun AreNamed.append Move.areNamed

end Setup

/-! ## Histories keep clouds sound

  From one call to many, to a whole setup, and to setups in a row; losses on the wire play no
  part, since a call that is lost is applied or is not. -/

/-- **Every call that names what it creates keeps the cloud sound**, lost or not. -/
theorem Cloud.IsSound.respond {m : Minting} {w : Wire} {call : Call} (hm : m.IsSound)
    (h : w.cloud.IsSound) (hcall : call.IsNamed) : (w.respond m call).2.cloud.IsSound := by
  rcases w.respond_cases m call with ⟨loss, fates, hrespond⟩ | ⟨reply, -, hrespond⟩
  · rw [hrespond]
    exact h
  · rw [hrespond]
    exact h.apply hm hcall

/-- By induction on the calls that were answered, whatever was lost of them. -/
theorem Cloud.IsSound.served {m : Minting} {w last : Wire} {xs : List Exchange} (hm : m.IsSound)
    (hserved : Served (Wire.respond m) w xs last) (hnamed : AreNamed xs) (h : w.cloud.IsSound) :
    last.cloud.IsSound := by
  induction hserved with
  | nil w => exact h
  | cons _ ih =>
    have hfirst := hnamed _ List.mem_cons_self
    exact ih (fun x hx => hnamed x (List.mem_cons_of_mem _ hx)) (h.respond hm hfirst)

/-- A setup keeps a cloud sound, however it ends. -/
theorem Cloud.IsSound.run {m : Minting} {w : Wire} (hm : m.IsSound) (h : w.cloud.IsSound)
    (j : Job) : (j.procedure.run (Wire.respond m) w).state.cloud.IsSound := by
  have hcourse := shipCourse_of_run (Wire.respond m) j.image j.appName j.answers w
  exact .served hm (served_run _ _ w) hcourse.moves.areNamed h

/-- **A sound cloud is sound after every history of setups**, whatever was lost on the way. -/
theorem isSound_after_history {m : Minting} {w : Wire} (hm : m.IsSound) (h : w.cloud.IsSound)
    (jobs : List Job) : (runEach (Wire.respond m) (jobs.map Job.procedure) w).2.cloud.IsSound := by
  induction jobs generalizing w with
  | nil => exact h
  | cons j jobs ih => exact ih (h.run hm j)

end LogDrain
