/-
  A CLOUD: the remote side as a machine, to run setups against.

  The state is what setups read and change: the apps by name, the apps of an organization by role,
  the add-ons by name, the machines and the secrets of apps.  A call is applied at once
  (`Cloud.apply`), and answered from the state that it finds (`Cloud.reply`); what has to be made
  up, such as ids and tokens, is made up from the number of things made before (`Minting`).
  Creating never refuses because of what is there: an add-on of a name that is taken is replaced,
  and apps and machines are added to those that are there.  So it is for the setup not to create
  things twice.

  Between the two sides stands a wire, on which a request or its reply can be lost (`Fate`).  A
  request whose reply is lost was applied all the same.  The wire keeps every call that was applied,
  with the state in which it was (`Wire.applied`).
-/
import LogDrain.Proofs.Creation
import LogDrain.Proofs.ReadBack

namespace LogDrain

/-! ## Records as values

  The records as the remote side would send them.  That they can be read back is shown where they
  are read. -/

/-- The organization as a value. -/
def Organization.toJson (o : Organization) : Json :=
  .obj [("id", .str o.id), ("slug", .str o.slug), ("rawSlug", .str o.rawSlug)]

/-- The app as a value. -/
def App.toJson (a : App) : Json :=
  .obj [("id", .str a.id), ("name", .str a.name), ("organization", a.organization.toJson)]

/-- A text or null. -/
def Json.ofText? : Option String → Json
  | some s => .str s
  | none => .null

/-- The add-on as a value. -/
def AddOn.toJson (a : AddOn) : Json :=
  .obj [("id", .ofText? a.id), ("name", .str a.name), ("token", .str a.token)]

/-- The machine as a value. -/
def Machine.toJson (m : Machine) : Json :=
  .obj [("id", .str m.id), ("name", .ofText? m.name), ("state", .ofText? m.state),
        ("region", .ofText? m.region), ("config", .obj [("image", .ofText? m.image)])]

/-! ## The state

  Maps from names to what is there, as functions, and a count of what was made, from which fresh
  names are made up. -/

/-- What the remote side holds. -/
structure Cloud where
  apps : List App
  roleApps : String → String → List App
  addOns : String → Option AddOn
  machines : String → List Machine
  secrets : String → String → Option String
  made : Nat

/-- What is made up by the remote side, from the number of things made before. -/
structure Minting where
  appId : Nat → String
  addOnId : Nat → String
  machineId : Nat → String
  accessToken : Nat → String
  addOnToken : String → String
  region : String

namespace Cloud

/-- The app of a name. -/
def app? (c : Cloud) (name : String) : Option App := c.apps.find? (·.name == name)

/-- The organization of an id, as one of its apps has it. -/
def organization? (c : Cloud) (id : String) : Option Organization :=
  (c.apps.map (·.organization)).find? (·.id == id)

/-- The machine that is made for a launch. -/
def launched (m : Minting) (c : Cloud) (what : Launch) : Machine :=
  { id := m.machineId c.made, name := some what.name, state := some "started"
    region := some what.region, image := some what.config.image }

/-- The add-on that is made. -/
def newAddOn (m : Minting) (c : Cloud) (name : String) : AddOn :=
  { id := some (m.addOnId c.made), name, token := m.addOnToken name }

/-- The app that is made, if its organization is known. -/
def newApp? (m : Minting) (c : Cloud) (organizationId name : String) : Option App :=
  (c.organization? organizationId).map fun owner => ⟨m.appId c.made, name, owner⟩

/-- The apps with this one: in place of that of its name, if there is one, else at the end. -/
def putApp (app : App) : List App → List App
  | [] => [app]
  | a :: rest => if a.name = app.name then app :: rest else a :: putApp app rest

/-- The values of an app's secrets after some were written, later ones over earlier ones. -/
def writeAll (secrets : List Secret) (values : String → Option String) : String → Option String :=
  secrets.foldl (fun values s => Function.update values s.key (some s.value)) values

/-- The state after a call. -/
def apply (m : Minting) (c : Cloud) : Call → Cloud
  | .query (.createApp organizationId name role _) =>
    match c.newApp? m organizationId name with
    | none => c
    | some app =>
      let marked := match role with
        | some role => Function.update c.roleApps role
            (Function.update (c.roleApps role) organizationId
              (c.roleApps role organizationId ++ [app]))
        | none => c.roleApps
      { c with apps := putApp app c.apps, roleApps := marked, made := c.made + 1 }
  | .query (.createAddOn _ name _ _) =>
    { c with
      addOns := Function.update c.addOns name (some (c.newAddOn m name)), made := c.made + 1 }
  | .query (.createToken ..) => { c with made := c.made + 1 }
  | .query (.setSecrets appId secrets) =>
    { c with secrets := Function.update c.secrets appId (writeAll secrets (c.secrets appId)) }
  | .machines app (.launch what) =>
    { c with machines := Function.update c.machines app (c.machines app ++ [c.launched m what])
             made := c.made + 1 }
  | .query (.app _) | .query (.appsByRole ..) | .query (.addOn _) | .query .nearestRegion
  | .machines _ .list | .machines _ (.restart _) | .machines _ (.wait ..) => c

/-! ## The replies

  A reply is made from the state before the call is applied, but for what the call makes, which it
  shows. -/

/-- The bytes of a value. -/
def bodyOf (v : Json) : List UInt8 := Text.Utf8.encode v.writeChars

/-- A reply with a value as its body. -/
def jsonReply (v : Json) : Reply := .answered 200 (bodyOf v)

/-- A reply with data. -/
def dataReply (data : Fields) : Reply := jsonReply (.obj [("data", .obj data)])

/-- A reply that says that something was not found. -/
def notFoundReply (what : String) : Reply :=
  jsonReply (.obj
    [("errors", .arr [.obj [("message", .str ("Could not find " ++ what)),
                            ("extensions", .obj [("code", .str Envelope.notFoundCode)])]]),
     ("data", .null)])

/-- The reply with a record under a key, or that it was not found. -/
def recordReply (key what : String) : Option Json → Reply
  | some v => dataReply [(key, v)]
  | none => notFoundReply what

/-- The reply to a call in a state. -/
def reply (m : Minting) (c : Cloud) : Call → Reply
  | .query (.app name) => recordReply "app" ("App " ++ name) ((c.app? name).map App.toJson)
  | .query (.appsByRole role organizationId) =>
    dataReply [("apps", .obj [("nodes", .arr ((c.roleApps role organizationId).map App.toJson))])]
  | .query (.createApp organizationId name _ _) =>
    recordReply "createApp" ("Organization " ++ organizationId)
      ((c.newApp? m organizationId name).map fun app => .obj [("app", app.toJson)])
  | .query (.addOn name) => recordReply "addOn" ("AddOn " ++ name)
      ((c.addOns name).map AddOn.toJson)
  | .query (.createAddOn _ name _ _) =>
    dataReply [("createAddOn", .obj [("addOn", (c.newAddOn m name).toJson)])]
  | .query (.createToken ..) =>
    dataReply [("createLimitedAccessToken",
      .obj [("limitedAccessToken", .obj [("token", .str (m.accessToken c.made))])])]
  | .query (.setSecrets ..) => dataReply [("setSecrets", .obj [("release", .null)])]
  | .query .nearestRegion => dataReply [("nearestRegion", .obj [("code", .str m.region)])]
  | .machines app .list => jsonReply (.arr ((c.machines app).map Machine.toJson))
  | .machines _ (.launch what) => jsonReply (c.launched m what).toJson
  | .machines _ (.restart _) | .machines _ (.wait ..) => jsonReply (.obj [("ok", .bool true)])

end Cloud

/-! ## What the replies say

  Bodies are texts, and the setup reads texts.  These laws take the text out of the way: a body
  that was written is read as its value. -/

namespace Json

/-- A text, or null for none, is read as it was written; and so are the records, which are made of
    nothing else. -/
theorem isExact_ofText? (text : Option String) : (Json.ofText? text).IsExact := by
  cases text <;> simp [ofText?, IsExact]

end Json

theorem Organization.isExact_toJson (o : Organization) : o.toJson.IsExact := by
  simp [toJson, Json.IsExact, Json.HaveExact]

theorem App.isExact_toJson (a : App) : a.toJson.IsExact := by
  simp [toJson, Json.IsExact, Json.HaveExact, a.organization.isExact_toJson]

theorem AddOn.isExact_toJson (a : AddOn) : a.toJson.IsExact := by
  simp [toJson, Json.IsExact, Json.HaveExact, Json.isExact_ofText?]

theorem Machine.isExact_toJson (m : Machine) : m.toJson.IsExact := by
  simp [toJson, Json.IsExact, Json.HaveExact, Json.isExact_ofText?]

namespace Cloud

/-- A body is never empty, since a value always has a character. -/
theorem bodyOf_ne_nil (v : Json) : bodyOf v ≠ [] := by
  obtain ⟨c, cs, hcs, -⟩ := Json.writeChars_eq_cons v
  have hchar : Text.Utf8.encodeChar c ≠ [] := by
    unfold Text.Utf8.encodeChar
    simp only []
    split
    · exact List.cons_ne_nil _ _
    split
    · exact List.cons_ne_nil _ _
    split <;> exact List.cons_ne_nil _ _
  intro hnil
  rw [bodyOf, hcs, Text.Utf8.encode, List.flatMap_cons] at hnil
  exact hchar (List.append_eq_nil_iff.mp hnil).1

/-- **A body is read as the value that was written.** -/
theorem parse?_bodyOf_eq {v : Json} (h : v.IsWritable) :
    Envelope.parse? (bodyOf v) = some v.reread := by
  unfold Envelope.parse? bodyOf
  rw [Text.Utf8.decode?_encode]
  simp only [Json.read_writeChars_eq h]
  rfl

/-- A body is taken for the value that was written, with its numbers read anew. -/
theorem body_bodyOf_eq {v : Json} (h : v.IsWritable) : Envelope.body (bodyOf v) = v.reread := by
  unfold Envelope.body
  rw [if_neg (bodyOf_ne_nil v), parse?_bodyOf_eq h]
  rfl

/-- **A body of exact values is read as what was written.** -/
theorem parse?_bodyOf {v : Json} (h : v.IsExact) : Envelope.parse? (bodyOf v) = some v := by
  obtain ⟨hwritable, heq⟩ := h.reread_eq
  rw [parse?_bodyOf_eq hwritable, heq]

theorem body_bodyOf {v : Json} (h : v.IsExact) : Envelope.body (bodyOf v) = v := by
  obtain ⟨hwritable, heq⟩ := h.reread_eq
  rw [body_bodyOf_eq hwritable, heq]

variable {data : Fields}

theorem isExact_data (h : (Json.obj data).IsExact) : (Json.obj [("data", .obj data)]).IsExact := by
  simp [Json.IsExact, Json.HaveExact] at h ⊢
  exact h

/-- And no others. -/
theorem eq_of_hasData {other : Fields} (h : (Json.obj data).IsExact)
    (hother : HasData (dataReply data) other) : other = data := by
  obtain ⟨payload, hreply, -, hdata⟩ := hother
  cases hreply
  rw [body_bodyOf (isExact_data h)] at hdata
  cases hdata
  rfl

/-- A reply with data has no errors. -/
theorem not_errorsSayNotFound (h : (Json.obj data).IsExact) :
    ¬ ErrorsSayNotFound (dataReply data) := by
  rintro ⟨status, payload, entries, hreply, herrors, -⟩
  cases hreply
  rw [body_bodyOf (isExact_data h)] at herrors
  cases herrors

/-! ## What is there is shown

  In the other direction: where a reply says that something is not there, it is not there.  This
  is what licenses are worth against a cloud. -/

/-- **An add-on that is there is shown.** -/
theorem addOns_eq_none (m : Minting) {c : Cloud} {name : String}
    (h : ShowsNoAddOn (c.reply m (.query (.addOn name)))) : c.addOns name = none := by
  cases haddOn : c.addOns name with
  | none => rfl
  | some addOn =>
    have hexact : (Json.obj [("addOn", addOn.toJson)]).IsExact := by
      simp [Json.IsExact, Json.HaveExact, addOn.isExact_toJson]
    simp only [reply, haddOn, Option.map_some, recordReply] at h
    rcases h with herrors | ⟨data, hdata, hnone⟩
    · exact absurd herrors (not_errorsSayNotFound hexact)
    · rw [eq_of_hasData hexact hdata] at hnone
      exact absurd rfl (hnone _)

/-- **A shipper that is there is shown.** -/
theorem roleApps_eq_nil (m : Minting) {c : Cloud} {role organizationId : String}
    (h : ShowsNoShipper (c.reply m (.query (.appsByRole role organizationId)))) :
    c.roleApps role organizationId = [] := by
  cases happs : c.roleApps role organizationId with
  | nil => rfl
  | cons app others =>
    have hnodes : Json.AreExact ((app :: others).map App.toJson) :=
      Json.areExact_map App.isExact_toJson _
    have hexact : (Json.obj
        [("apps", .obj [("nodes", .arr ((app :: others).map App.toJson))])]).IsExact := by
      simp only [Json.IsExact, Json.HaveExact]
      exact ⟨by simp, ⟨by simp, hnodes, trivial⟩, trivial⟩
    obtain ⟨data, hdata, hnone⟩ := h
    simp only [reply, happs] at hdata
    rw [eq_of_hasData hexact hdata] at hnone
    exact absurd List.mem_cons_self (hnone _ _ _ rfl rfl)

/-- **A machine that is there is shown.** -/
theorem machines_eq_nil (m : Minting) {c : Cloud} {app : String}
    (h : ShowsNoMachine (c.reply m (.machines app .list))) : c.machines app = [] := by
  cases hmachines : c.machines app with
  | nil => rfl
  | cons machine others =>
    have hexact : (Json.arr ((machine :: others).map Machine.toJson)).IsExact := by
      rw [Json.IsExact]
      exact Json.areExact_map Machine.isExact_toJson _
    obtain ⟨status, payload, hreply, -, hnone⟩ := h
    simp only [reply, hmachines] at hreply
    cases hreply
    rcases hnone with hempty | ⟨v, hparse, hnone⟩
    · exact absurd hempty (bodyOf_ne_nil _)
    · rw [parse?_bodyOf hexact] at hparse
      cases hparse
      exact absurd List.mem_cons_self (hnone _ _ rfl)

end Cloud

/-! ## The wire

  Each call has a fate: it goes through, or it is lost, or its reply is.  Only in the first case
  the setup knows what has become of it. -/

/-- What happens to a request on its way. -/
inductive Fate where
  | answered
  | requestLost (loss : Loss)
  | replyLost (loss : Loss)

/-- A cloud at the end of a wire: what will happen to the next requests (nothing to those beyond the
    list), and every call that was applied so far, with the state in which it was. -/
structure Wire where
  cloud : Cloud
  fates : List Fate
  applied : List (Cloud × Call)

namespace Wire

/-- The wire after a call that was applied. -/
def applying (m : Minting) (w : Wire) (call : Call) : Wire :=
  { cloud := w.cloud.apply m call, fates := w.fates.tail
    applied := w.applied ++ [(w.cloud, call)] }

/-- What comes of a call. -/
def respond (m : Minting) (w : Wire) (call : Call) : Reply × Wire :=
  match w.fates.headD .answered with
  | .answered => (w.cloud.reply m call, w.applying m call)
  | .requestLost loss => (.lost loss, { w with fates := w.fates.tail })
  | .replyLost loss => (.lost loss, w.applying m call)

end Wire

end LogDrain
