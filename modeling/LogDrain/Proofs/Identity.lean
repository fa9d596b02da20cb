/-
  IDENTITIES: the texts by which a setup knows an app, and where they come from.

  An app is known by four texts: its id and its name, and the id and the slug of its organization.
  Each is taken from a place of its own in a node of a reply (`Identity.path`), and is what is shown
  of whatever stands there (`TakenFrom`):

    * a text is taken as it is, so an identity is a text of the node exactly where the node has a
      text for it that is not empty (`TakenFrom.genuine`);
    * nothing at all is shown as `None`, and no node is refused for that (`TakenFrom.absent`).

  All that a setup sends about an app is such an identity of a node that came before (`Identified`):
  of the app asked for, of a shipper that was listed, or of one that was created.  Where every node
  has its four texts, nothing else is ever sent.  `fabricates_organization` is a run in which a node
  lacks one, and the setup goes on with the text `None` for an organization.

  Which apps are known grows along a run (`knownAfter`): every reply adds the apps that it
  offers.  A run carries what is known (`Carried`) if each of its calls is about an app known by
  then.  Of a single step this is plain, since a step is about one app (`Call.IsAbout`); and runs
  that carry can be put one after the other (`Carried.append`), the second one knowing what the
  first has learnt.
-/
import LogDrain.Proofs.Evidence
import LogDrain.Proofs.Shown

namespace LogDrain

/-! ## Identities

  Four texts, each with its path.  What is at the end of the path is shown as a text whatever it
  is, and this is where a missing identity gets the text that stands for nothing. -/

/-- What an app is known by. -/
inductive Identity where
  | appId
  | appName
  | organizationId
  | slug
  deriving DecidableEq, Repr

/-- Where it stands in a node. -/
def Identity.path : Identity → List String
  | .appId => ["id"]
  | .appName => ["name"]
  | .organizationId => ["organization", "id"]
  | .slug => ["organization", "slug"]

/-- What an app has for it. -/
def App.identity (app : App) : Identity → String
  | .appId => app.id
  | .appName => app.name
  | .organizationId => app.organization.id
  | .slug => app.organization.slug

/-- The node has this text for the identity, and it is not empty. -/
def Json.Names (node : Json) (part : Identity) (text : String) : Prop :=
  node.LeadsTo part.path (.str text) ∧ text ≠ ""

/-- The text is what the node has for the identity: its own text if it has one, and else what is
    shown of whatever stands there, or of nothing. -/
structure TakenFrom (node : Json) (part : Identity) (text : String) : Prop where
  shown : text = (node.lookUp part.path).display
  genuine : node.Names part text ↔ ∃ own, node.Names part own
  absent : node.lookUp part.path = .null → text = "None"

/-- What is shown at the place of an identity is taken from there: a text that is not empty as it
    is, and nothing at all as `None`. -/
theorem takenFrom_lookUp (node : Json) (part : Identity) :
    TakenFrom node part (node.lookUp part.path).display where
  shown := rfl
  genuine := by
    refine ⟨fun h => ⟨_, h⟩, ?_⟩
    rintro ⟨own, hown⟩
    have hfound : node.lookUp part.path = .str own := (Json.lookUp_eq_iff (by simp)).mpr hown.1
    rw [hfound]
    exact hown
  absent h := by
    rw [h]
    decide +kernel

/-- Each identity of an app that a node shows is taken from the node. -/
theorem App.takenFrom_shownBy (node : Json) (part : Identity) :
    TakenFrom node part ((App.shownBy node).identity part) := by
  have hpart : (App.shownBy node).identity part = (node.lookUp part.path).display := by
    cases part <;> rfl
  rw [hpart]
  exact takenFrom_lookUp node part

/-! ## Nodes

  A node is refused for one reason only, an organization that is something but no object.  All
  other nodes give an app, however little they have. -/

/-- The object can be read as an app: its organization is an object, or nothing. -/
def FitsApp (fields : Fields) : Prop := ¬ (Fields.get fields "organization").Misplaced

/-- The app is what the node shows, with every identity taken from it. -/
structure AppOf (node : Json) (app : App) : Prop where
  shown : app = .shownBy node
  taken : ∀ part, TakenFrom node part (app.identity part)

/-- An app is of a node exactly if it is what the node shows, text by text. -/
theorem appOf_iff {node : Json} {app : App} : AppOf node app ↔ app = .shownBy node := by
  refine ⟨AppOf.shown, ?_⟩
  rintro rfl
  exact ⟨rfl, App.takenFrom_shownBy node⟩

/-- **Which nodes are read, and as what**: a node is refused for its organization only, if that is
    no object and not nothing. -/
theorem App.ofJson_eq_ok_iff_appOf {fields : Fields} {app : App} :
    App.ofJson (.obj fields) = .ok app ↔ FitsApp fields ∧ AppOf (.obj fields) app := by
  rw [App.ofJson_eq_ok_iff, appOf_iff]
  rfl

/-- The reply to the call has this node for an app: the app that is looked for, one that is listed,
    or one that was created. -/
inductive Exchange.HasNode : Exchange → Json → Prop
  | found {x fields} : x.1.kind = .app → Holds x.2 ["app"] (.obj fields) → HasNode x (.obj fields)
  | listed {x nodes fields} : x.1.kind = .appsByRole → Holds x.2 ["apps", "nodes"] (.arr nodes) →
      .obj fields ∈ nodes → HasNode x (.obj fields)
  | created {x fields} : x.1.kind = .createApp → Holds x.2 ["createApp", "app"] (.obj fields) →
      HasNode x (.obj fields)

/-- The exchange offers this app. -/
def Exchange.Offers (x : Exchange) (app : App) : Prop := ∃ node, x.HasNode node ∧ AppOf node app

/-! ## Reading apps -/

/-- What the operations on apps give: for each object that they are given and that can be read, the
    app that it shows, whichever of its identities it lacks. -/
structure Recognizes (replies : List Reply) : Prop where
  found : ∀ name reply app,
    (((Platform.app name).run Procedure.nextReply (reply :: replies)).result = .ok app ↔
      ∃ fields, Holds reply ["app"] (.obj fields) ∧ FitsApp fields ∧ AppOf (.obj fields) app)
  created : ∀ organizationId name role machines reply app,
    (((Platform.createApp organizationId name role machines).run Procedure.nextReply
        (reply :: replies)).result = .ok app ↔
      ∃ fields, Holds reply ["createApp", "app"] (.obj fields) ∧ FitsApp fields ∧
        AppOf (.obj fields) app)
  listed : ∀ role organizationId reply app apps,
    ((Platform.appsByRole role organizationId).run Procedure.nextReply (reply :: replies)).result =
        .ok (app :: apps) →
      ∃ nodes, Holds reply ["apps", "nodes"] (.arr nodes) ∧
        List.Forall₂ (fun fields app => FitsApp fields ∧ AppOf (.obj fields) app)
          (Json.objects nodes) (app :: apps)
  listable : ∀ role organizationId reply nodes, Holds reply ["apps", "nodes"] (.arr nodes) →
    (∀ fields ∈ Json.objects nodes, FitsApp fields) →
      ((Platform.appsByRole role organizationId).run Procedure.nextReply
        (reply :: replies)).result =
        .ok ((Json.objects nodes).map fun fields => .shownBy (.obj fields))

namespace Platform

variable {role organizationId : String} {reply : Reply}

/-- Apps that are listed at all are the objects of an array, one for one and in order. -/
theorem forall₂_of_appsByRole {app : App} {apps : List App}
    (h : (appsByRole role organizationId).given reply = .ok (app :: apps)) :
    ∃ nodes, Holds reply ["apps", "nodes"] (.arr nodes) ∧
      List.Forall₂ (fun fields app => FitsApp fields ∧ AppOf (.obj fields) app) (Json.objects nodes)
        (app :: apps) := by
  obtain ⟨nodes, _, _, hholds, -, -⟩ := givesShipper_of_ok h
  rw [given_appsByRole_of_holds hholds, mapError_eq_ok, mapM_ok_iff] at h
  exact ⟨nodes, hholds, h.imp fun _ _ => App.ofJson_eq_ok_iff_appOf.mp⟩

/-- If every node fits, all of them are read. -/
theorem given_appsByRole_of_fits {nodes : List Json}
    (h : Holds reply ["apps", "nodes"] (.arr nodes))
    (hfits : ∀ fields ∈ Json.objects nodes, FitsApp fields) :
    (appsByRole role organizationId).given reply =
      .ok ((Json.objects nodes).map fun fields => .shownBy (.obj fields)) := by
  rw [given_appsByRole_of_holds h, mapError_eq_ok, mapM_ok_iff, List.forall₂_map_right_iff,
    List.forall₂_same]
  exact fun fields hmem => App.ofJson_of_fits (hfits fields hmem)

/-- **Apps are read so**, whatever is replied. -/
theorem recognizes (replies : List Reply) : Recognizes replies where
  found name reply app := by
    rw [(asksOnce_app name).result_run]
    refine given_app_iff.trans ?_
    simp only [GivesApp, App.ofJson_eq_ok_iff_appOf]
    rfl
  created organizationId name role machines reply app := by
    rw [(asksOnce_createApp organizationId name role machines).result_run]
    refine given_createApp_iff.trans ?_
    simp only [GivesNewApp, App.ofJson_eq_ok_iff_appOf]
    rfl
  listed role organizationId reply app apps h := by
    rw [(asksOnce_appsByRole role organizationId).result_run] at h
    exact forall₂_of_appsByRole h
  listable role organizationId reply nodes h hfits := by
    rw [(asksOnce_appsByRole role organizationId).result_run]
    exact given_appsByRole_of_fits h hfits

end Platform

/-! ## What a call says about apps

  The identities in a call are listed, each with the part it is used for.  A run carries only what
  is known (`Carried`): known at first, or offered by a node of an earlier reply. -/

/-- The identities that the call carries: the ids of organizations and apps, and the name of the app
    whose machines it is about. -/
def Call.identities : Call → List (Identity × String)
  | .query (.appsByRole _ organizationId) | .query (.createApp organizationId ..)
  | .query (.createToken _ organizationId ..) => [(.organizationId, organizationId)]
  | .query (.createAddOn organizationId _ appId _) =>
    [(.organizationId, organizationId), (.appId, appId)]
  | .query (.setSecrets appId _) => [(.appId, appId)]
  | .machines app _ => [(.appName, app)]
  | .query (.app _) | .query (.addOn _) | .query .nearestRegion => []

/-- Whatever identity the call carries, it is one of this app. -/
def Call.IsAbout (call : Call) (app : App) : Prop := ∀ p ∈ call.identities, p.2 = app.identity p.1

namespace Setup

open Procedure

variable {α β : Type} {known : App → Prop} {xs ys : List Exchange}

/-- What is known after these exchanges: what was known, and what they offer. -/
def knownAfter (known : App → Prop) (xs : List Exchange) (app : App) : Prop :=
  known app ∨ ∃ y ∈ xs, y.Offers app

/-- What is known after two rows of exchanges is known after both together. -/
theorem knownAfter_append {app : App} (h : knownAfter (knownAfter known xs) ys app) :
    knownAfter known (xs ++ ys) app := by
  rcases h with (hknown | ⟨y, hmem, hoffers⟩) | ⟨y, hmem, hoffers⟩
  · exact Or.inl hknown
  · exact Or.inr ⟨y, List.mem_append_left _ hmem, hoffers⟩
  · exact Or.inr ⟨y, List.mem_append_right _ hmem, hoffers⟩

/-- Every identity that is carried is one of an app that is known by then. -/
def Carried (known : App → Prop) (xs : List Exchange) : Prop :=
  ∀ before x after, xs = before ++ x :: after → ∀ p ∈ x.1.identities,
    ∃ app, knownAfter known before app ∧ p.2 = app.identity p.1

/-- Calls that carry nothing can be made at any time. -/
theorem carried_of_nothing (h : ∀ x ∈ xs, x.1.identities = []) : Carried known xs := by
  rintro before x after rfl p hp
  have hx : x ∈ before ++ x :: after := List.mem_append_right _ List.mem_cons_self
  rw [h x hx] at hp
  cases hp

/-- Calls about an app that is known carry what is known. -/
theorem carried_of_forall {app : App} (happ : known app) (h : ∀ x ∈ xs, x.1.IsAbout app) :
    Carried known xs := by
  rintro before x after rfl p hp
  have hx : x ∈ before ++ x :: after := List.mem_append_right _ List.mem_cons_self
  exact ⟨app, Or.inl happ, h x hx p hp⟩

/-- **Runs that carry what is known** can be put one after the other: the second may carry what the
    first offers, too. -/
theorem Carried.append (hx : Carried known xs) (hy : Carried (knownAfter known xs) ys) :
    Carried known (xs ++ ys) := by
  intro before x after hsplit p hp
  rcases List.append_eq_append_iff.mp hsplit with ⟨middle, rfl, hys⟩ | ⟨middle, hxs, hrest⟩
  · -- the call stands in the second run
    obtain ⟨app, happ, hcarried⟩ := hy middle x after hys p hp
    exact ⟨app, knownAfter_append happ, hcarried⟩
  · cases middle with
    | nil =>
      rw [List.append_nil] at hxs
      subst hxs
      obtain ⟨app, happ, hcarried⟩ := hy [] x after hrest.symm p hp
      have hbefore := knownAfter_append happ
      rw [List.append_nil] at hbefore
      exact ⟨app, hbefore, hcarried⟩
    | cons first middle =>
      rw [List.cons_append, List.cons.injEq] at hrest
      obtain ⟨rfl, -⟩ := hrest
      exact hx before x middle hxs p hp

/-- The second step may use what the first one was given. -/
theorem Then.carried {P : Course α} {Q : α → Course β} {r : Except Fault β} (h : Then P Q xs r)
    (hP : ∀ {ys q}, P ys q → Carried known ys)
    (hQ : ∀ {value ys zs q}, P ys (.ok value) → Q value zs q → Carried (knownAfter known ys) zs) :
    Carried known xs := by
  cases h with
  | stopped hstop => exact hP hstop
  | went hfirst hrest => exact (hP hfirst).append (hQ hfirst hrest)

theorem Plain.carried {e r : Except Fault α} (h : Plain e xs r) : Carried known xs := by
  rw [h.eq.1]
  exact carried_of_nothing nofun

/-! ## Steps about one app

  Most steps speak of one app alone, the one asked for or the shipper; for these it is enough that
  each call is about it. -/

/-- The add-on is of the app asked for, whether it is looked up or created. -/
theorem AddOnCourse.isAbout {target : App} {slug : String} {r : Except Fault String}
    (h : AddOnCourse target slug xs r) : ∀ x ∈ xs, x.1.IsAbout target := by
  have hcreate : ∀ addOnType, (createAddOnCall target addOnType).IsAbout target := by
    intro addOnType p hp
    simp only [createAddOnCall, Call.identities, List.mem_cons, List.not_mem_nil, or_false] at hp
    rcases hp with rfl | rfl <;> rfl
  have hlook : (addOnCall target).IsAbout target := by
    intro p hp
    cases hp
  cases h with
  | found | failed | unsupported => simpa using hlook
  | refused | created => simpa using ⟨hlook, hcreate _⟩

theorem ProviderCourse.isAbout {target : App} {provider : Provider} {answers : Answers}
    {r : Except Fault (List Secret)} (h : ProviderCourse target provider answers xs r) :
    ∀ x ∈ xs, x.1.IsAbout target := by
  unfold ProviderCourse at h
  split at h
  · exact h.forall_mem AddOnCourse.isAbout Plain.forall_mem
  · exact h.forall_mem

/-- A call that carries one identity of the app, and no other. -/
theorem isAbout_of_eq {call : Call} {app : App} (part : Identity)
    (h : call.identities = [(part, app.identity part)]) : call.IsAbout app := by
  intro p hp
  rw [h] at hp
  rw [List.mem_singleton.mp hp]

/-- The machines are those of the shipper, and so is the one that is launched. -/
theorem MachineCourse.isAbout {image : String} {shipper : App} {r : Except Fault Unit}
    (h : MachineCourse image shipper xs r) : ∀ x ∈ xs, x.1.IsAbout shipper := by
  have hlist : (listCall shipper).IsAbout shipper := isAbout_of_eq .appName rfl
  have hregion : regionCall.IsAbout shipper := by
    intro p hp
    cases hp
  have hlaunch : ∀ region, (launchCall image shipper region).IsAbout shipper := fun _ =>
    isAbout_of_eq .appName rfl
  cases h with
  | blank => exact nofun
  | unlisted | found => simpa using hlist
  | nowhere => simpa using ⟨hlist, hregion⟩
  | refused | launched => simpa using ⟨hlist, hregion, hlaunch _⟩

theorem SecretsCourse.isAbout {shipper : App} {secrets : List Secret} {r : Except Fault Unit}
    (h : SecretsCourse shipper secrets xs r) : ∀ x ∈ xs, x.1.IsAbout shipper := by
  have hwrite : (secretsCall shipper secrets).IsAbout shipper := isAbout_of_eq .appId rfl
  unfold SecretsCourse at h
  split at h
  · exact h.forall_mem
  · obtain ⟨reply, rfl, -⟩ := h.exists_reply
    simpa using hwrite

/-- The restarts name their app as the listing did. -/
theorem RestartCourse.isAbout {shipper : App} {skip : Bool} {machines : List Machine}
    {r : Except Fault Unit} (h : RestartCourse shipper.name skip machines xs r) :
    ∀ x ∈ xs, x.1.IsAbout shipper := by
  have hcall : ∀ call, (Call.machines shipper.name call).IsAbout shipper := fun _ =>
    isAbout_of_eq .appName rfl
  induction h with
  | nil | unnamed => exact nofun
  | refused => simpa using hcall _
  | unready => simpa using ⟨hcall _, hcall _⟩
  | skipped _ _ _ _ ih => exact List.forall_mem_cons.mpr ⟨hcall _, ih⟩
  | waited _ _ _ _ _ ih =>
    exact List.forall_mem_cons.mpr ⟨hcall _, List.forall_mem_cons.mpr ⟨hcall _, ih⟩⟩

/-- A redeployment is about one app from its listing to its last restart. -/
theorem RedeployCourse.isAbout {shipper : App} {skip : Bool} {r : Except Fault Nat}
    (h : RedeployCourse shipper skip xs r) : ∀ x ∈ xs, x.1.IsAbout shipper := by
  have hlist : (listCall shipper).IsAbout shipper := isAbout_of_eq .appName rfl
  cases h with
  | blank => exact nofun
  | unlisted => simpa using hlist
  | listed _ _ hrestart => exact List.forall_mem_cons.mpr ⟨hlist, hrestart.isAbout⟩

/-- The whole deployment is about the shipper: the token is issued for its organization. -/
theorem Deployment.isAbout {shipper : App} {secrets : List Secret} {r : Except Fault Nat}
    (h : Deployment shipper secrets xs r) : ∀ x ∈ xs, x.1.IsAbout shipper := by
  have htoken : (tokenCall shipper).IsAbout shipper := isAbout_of_eq .organizationId rfl
  have hwrite : ∀ written, (secretsCall shipper written).IsAbout shipper := fun _ =>
    isAbout_of_eq .appId rfl
  cases h with
  | untold => simpa using htoken
  | unwritten => simpa using ⟨htoken, hwrite _⟩
  | unprovided _ hprovided =>
    exact List.forall_mem_cons.mpr ⟨htoken, List.forall_mem_cons.mpr ⟨hwrite _, hprovided.isAbout⟩⟩
  | written _ hprovided hredeploy =>
    refine List.forall_mem_cons.mpr ⟨htoken, List.forall_mem_cons.mpr ⟨hwrite _, ?_⟩⟩
    exact List.forall_mem_append.mpr ⟨hprovided.isAbout, hredeploy.isAbout⟩

/-! ## The whole

  A setup starts with no app known, learns the first one by its look-up and the shipper by the
  next, and says nothing of any other. -/

/-- An app that a reply gives is offered by the exchange. -/
theorem offers_of_givesApp {x : Exchange} {app : App} (hkind : x.1.kind = .app)
    (h : GivesApp x.2 app) : x.Offers app := by
  obtain ⟨fields, hholds, hread⟩ := h
  exact ⟨_, .found hkind hholds, (App.ofJson_eq_ok_iff_appOf.mp hread).2⟩

/-- A shipper that is listed is offered by its node. -/
theorem offers_of_givesShipper {x : Exchange} {shipper : App} (hkind : x.1.kind = .appsByRole)
    (h : GivesShipper x.2 shipper) : x.Offers shipper := by
  obtain ⟨nodes, fields, others, hholds, hobjects, hread⟩ := h
  have hmem : .obj fields ∈ nodes := by
    rw [← Json.mem_objects, hobjects]
    exact List.mem_cons_self
  exact ⟨_, .listed hkind hholds hmem, (App.ofJson_eq_ok_iff_appOf.mp hread).2⟩

theorem offers_of_givesNewApp {x : Exchange} {app : App} (hkind : x.1.kind = .createApp)
    (h : GivesNewApp x.2 app) : x.Offers app := by
  obtain ⟨fields, hholds, hread⟩ := h
  exact ⟨_, .created hkind hholds, (App.ofJson_eq_ok_iff_appOf.mp hread).2⟩

/-- The shipper that the setup goes on with was offered, as one that is listed or as one that was
    created. -/
theorem ShipperCourse.offers {image : String} {organization : Organization} {shipper : App}
    (h : ShipperCourse image organization xs (.ok shipper)) : ∃ x ∈ xs, x.Offers shipper := by
  rcases h.gives with ⟨x, hmem, hkind, hgives⟩ | ⟨_, _, y, hmem, -, -, hkind, hgives⟩
  · exact ⟨x, hmem, offers_of_givesShipper hkind hgives⟩
  · exact ⟨y, hmem, offers_of_givesNewApp hkind hgives⟩

/-- Ensuring a shipper carries what is known of the app whose shipper it is, and after a creation
    what is known of the shipper. -/
theorem ShipperCourse.carried {image : String} {target : App} {r : Except Fault App}
    (htarget : known target) (h : ShipperCourse image target.organization xs r) :
    Carried known xs := by
  have hlook : (shippersCall target.organization).IsAbout target :=
    isAbout_of_eq .organizationId rfl
  have hcreate : (createShipperCall target.organization).IsAbout target :=
    isAbout_of_eq .organizationId rfl
  cases h with
  | unlisted | found => exact carried_of_forall htarget (by simpa using hlook)
  | refused => exact carried_of_forall htarget (by simpa using ⟨hlook, hcreate⟩)
  -- a shipper that was created is known from then on, and its machine is about it
  | @created reply made shipper ys _ hlisted hmade hequip =>
    have hmade : GivesNewApp made shipper := Platform.given_createApp_iff.mp hmade
    have hfirst : Carried known [(shippersCall target.organization, reply),
        (createShipperCall target.organization, made)] :=
      carried_of_forall htarget (by simpa using ⟨hlook, hcreate⟩)
    have hshipper : knownAfter known [(shippersCall target.organization, reply),
        (createShipperCall target.organization, made)] shipper :=
      Or.inr ⟨_, List.mem_cons_of_mem _ List.mem_cons_self, offers_of_givesNewApp rfl hmade⟩
    refine hfirst.append (carried_of_forall hshipper ?_)
    exact hequip.forall_mem MachineCourse.isAbout Plain.forall_mem

/-- With a provider chosen: what comes before the deployment is about the app asked for, and the
    deployment about the shipper that was offered on the way. -/
theorem ChosenCourse.carried {image : String} {target : App} {provider : Provider}
    {answers : Answers} {r : Except Fault Summary} (htarget : known target)
    (h : ChosenCourse image target provider answers xs r) : Carried known xs := by
  refine Then.carried h (fun hprovided => carried_of_forall htarget hprovided.isAbout) ?_
  intro secrets provided _ _ _ hrest
  refine Then.carried hrest (fun hshipped => hshipped.carried (Or.inl htarget)) ?_
  intro shipper shipped _ _ hshipped hrest
  have hshipper : knownAfter (knownAfter known provided) shipped shipper := Or.inr hshipped.offers
  refine Then.carried hrest (fun hequipped => carried_of_forall hshipper hequipped.isAbout) ?_
  intro _ equipped _ _ _ hrest
  refine Then.carried hrest ?_ fun _ hsummary => hsummary.carried
  exact fun hdeployed => carried_of_forall (Or.inl hshipper) hdeployed.deployment.isAbout

/-- At first no app is known: the name that is asked for is the request's, not an app's. -/
theorem ShipCourse.carried {image appName : String} {answers : Answers} {r : Except Fault Summary}
    (h : ShipCourse image appName answers xs r) : Carried (fun _ => False) xs := by
  refine Then.carried h ?_ ?_
  · -- the name that the setup is asked for is no identity of an app yet
    intro ys q htarget
    obtain ⟨reply, rfl, -⟩ := htarget.exists_reply
    exact carried_of_nothing (List.forall_mem_cons.mpr ⟨rfl, nofun⟩)
  · intro target asked _ _ htarget hselect
    obtain ⟨reply, rfl, hfound⟩ := htarget.exists_reply
    have hknown : knownAfter (fun _ => False) [(.query (.app appName), reply)] target :=
      Or.inr ⟨_, List.mem_cons_self, offers_of_givesApp rfl (Platform.given_app_iff.mp hfound)⟩
    refine Then.carried hselect Plain.carried ?_
    exact fun _ hchosen => hchosen.carried (Or.inl hknown)

/-- Every identity that is sent is taken from a node of a reply before; and so, where the nodes of
    all replies have their texts, it is a text that the remote side sent. -/
structure Identified (xs : List Exchange) : Prop where
  taken : ∀ before x after, xs = before ++ x :: after → ∀ p ∈ x.1.identities,
    ∃ y ∈ before, ∃ node, y.HasNode node ∧ TakenFrom node p.1 p.2
  sent : (∀ x ∈ xs, ∀ node, x.HasNode node → ∀ part, ∃ own, node.Names part own) →
    ∀ before x after, xs = before ++ x :: after → ∀ p ∈ x.1.identities,
      ∃ y ∈ before, ∃ node, y.HasNode node ∧ node.Names p.1 p.2

/-- What is known was offered by a node before, so each text that is sent was taken from that
    node. -/
theorem Carried.taken (h : Carried (fun _ => False) xs) : ∀ before x after,
    xs = before ++ x :: after → ∀ p ∈ x.1.identities,
      ∃ y ∈ before, ∃ node, y.HasNode node ∧ TakenFrom node p.1 p.2 := by
  intro before x after hsplit p hp
  obtain ⟨app, hnone | ⟨y, hmem, node, hnode, happ⟩, hcarried⟩ := h before x after hsplit p hp
  · exact hnone.elim
  · refine ⟨y, hmem, node, hnode, ?_⟩
    rw [hcarried]
    exact happ.taken p.1

/-- From where the texts come and what they are, for a whole run. -/
theorem Carried.identified (h : Carried (fun _ => False) xs) : Identified xs where
  taken := h.taken
  sent hcomplete before x after hsplit p hp := by
    obtain ⟨y, hmem, node, hnode, htaken⟩ := h.taken before x after hsplit p hp
    have hy : y ∈ xs := by
      rw [hsplit]
      exact List.mem_append_left _ hmem
    exact ⟨y, hmem, node, hnode, htaken.genuine.mpr (hcomplete y hy node hnode p.1)⟩

/-- **What a setup knows an app by** is taken from the replies: each operation gives the apps that
    its nodes show, and every request carries identities of these, whoever replies. -/
theorem ship_identified {σ : Type} (respond : σ → Call → Reply × σ) (image appName : String)
    (answers : Answers) (s : σ) (replies : List Reply) :
    Recognizes replies ∧ Identified ((ship image appName answers).run respond s).exchanges :=
  ⟨Platform.recognizes replies, (shipCourse_of_run respond image appName answers
    s).carried.identified⟩

/-! ## An identity that nobody sent

  The node lacks an organization.  It is accepted, and the next call asks for the shippers of the
  organization `None`. -/

namespace Nameless

/-- An app without an organization. -/
def node : Json := .obj [("id", .str "app_web"), ("name", .str "acme-web")]

def reply : Reply := Cloud.dataReply [("app", node)]

end Nameless

open Nameless in
/-- **An organization is made up**: the node has none, but an app is returned, and the setup looks
    for the shippers of the organization `None`. -/
theorem fabricates_organization :
    let run := (ship defaultImage "acme-web"
      (.of (some "datadog") [("DATADOG_API_KEY", "key")])).run nextReply [reply]
    ((Platform.app "acme-web").run nextReply [reply]).result =
        .ok ⟨"app_web", "acme-web", ⟨"None", "None", "None"⟩⟩ ∧
      (¬ ∃ own, node.Names .organizationId own) ∧
      run.calls.flatMap Call.identities = [(.organizationId, "None")] := by
  refine ⟨by decide +kernel, ?_, by decide +kernel⟩
  rintro ⟨own, ⟨fields, hnode, owner, howner, -⟩, -⟩
  cases hnode
  cases howner

end Setup

end LogDrain
