/-
  SETUPS THAT NOTHING DISTURBS: the cloud answers every request, and the setup ends well.

  `Succeeds m c P post` is what a triple is for programs: from the cloud `c`, whatever the course
  `P` goes through while the cloud answers, it ends with a value, and `post` holds of the value, the
  exchanges and the cloud that is left.  One rule goes along `Then`, and there is one statement for
  each step:

    * provisioning leaves the add-on, and makes nothing if it was there   (`succeeds_addOn`);
    * ensuring the shipper leaves one, and makes nothing if there was one (`succeeds_shipper`);
    * ensuring the machine leaves one, and launches nothing if there was one (`succeeds_machine`).

  What a step found or made, later steps leave as it is (`Heard.kept`): that is the invariant of
  interrupted setups once more, with nothing interrupted.

  What a step leaves is said of the cloud and not of the step's value only, because the next step
  has to find it there.  So a postcondition speaks of three things, and the rule for `Then` hands
  the cloud on, together with how it was come by (`Heard`), from which it is known to be sound
  (`Heard.isSound`).
-/
import LogDrain.Proofs.Dialogue

namespace LogDrain

open Setup Procedure

/-! ## The cloud answers

  The wire without its losses: every call is applied and answered.  What a cloud has is kept along
  such a run, since its calls are licensed and make nothing twice. -/

/-- A cloud as a responder, with nothing between it and the setup. -/
def Cloud.answer (m : Minting) (c : Cloud) (call : Call) : Reply × Cloud :=
  (c.reply m call, c.apply m call)

/-- The replies are those of the cloud, which ends as the second one. -/
abbrev Heard (m : Minting) : Cloud → List Exchange → Cloud → Prop := Served (Cloud.answer m)

variable {m : Minting} {c d e : Cloud} {call : Call} {reply : Reply} {xs ys : List Exchange}

theorem heard_nil : Heard m c [] d ↔ d = c := by
  constructor
  · intro h
    cases h
    rfl
  · rintro rfl
    exact .nil _

/-- The first call is answered by the cloud as it is, and the others by what it became. -/
theorem heard_cons :
    Heard m c ((call, reply) :: xs) d ↔ reply = c.reply m call ∧ Heard m (c.apply m call) xs d := by
  constructor
  · intro h
    cases h with
    | cons hrest => exact ⟨rfl, hrest⟩
  · rintro ⟨rfl, hrest⟩
    exact Served.cons (s := c) hrest

/-- Two rows of calls are answered one after the other, with a cloud in between. -/
theorem heard_append : Heard m c (xs ++ ys) e ↔ ∃ d, Heard m c xs d ∧ Heard m d ys e := by
  -- along the first run, whose cloud changes with every call
  induction xs generalizing c with
  | nil => simp [heard_nil]
  | cons x xs ih =>
    obtain ⟨call, reply⟩ := x
    simp only [List.cons_append, heard_cons, ih, and_assoc, exists_and_left]

/-- A wire on which nothing is lost is the cloud at its end. -/
theorem Heard.served (h : Heard m c xs d) (applied : List (Cloud × Call)) :
    ∃ later, Served (Wire.respond m) ⟨c, [], applied⟩ xs ⟨d, [], later⟩ := by
  induction h generalizing applied with
  | nil c => exact ⟨applied, .nil _⟩
  | @cons c d call xs _ ih =>
    obtain ⟨later, hrest⟩ := ih (applied ++ [(c, call)])
    have hwire : (Wire.respond m ⟨c, [], applied⟩ call).1 = (c.answer m call).1 := rfl
    rw [← hwire]
    exact ⟨later, .cons hrest⟩

/-- A sound cloud stays sound. -/
theorem Heard.isSound (h : Heard m c xs d) (hm : m.IsSound) (hc : c.IsSound)
    (hnamed : AreNamed xs) : d.IsSound := by
  obtain ⟨later, hserved⟩ := h.served []
  exact Cloud.IsSound.served hm hserved hnamed hc

/-- What is there in the first cloud is the same in the second. -/
structure Cloud.Kept (c d : Cloud) : Prop where
  shippers : ∀ owner, c.roleApps shipperRole owner ≠ [] →
    d.roleApps shipperRole owner = c.roleApps shipperRole owner
  addOns : ∀ name, c.addOns name ≠ none → d.addOns name = c.addOns name
  machines : ∀ app, c.machines app ≠ [] → d.machines app = c.machines app

theorem Grown.eq_of_ne_nil {α : Type} {old new : List α} (h : Grown old new) (hold : old ≠ []) :
    new = old := by
  rcases h with rfl | ⟨hempty, -⟩
  · rfl
  · exact absurd hempty hold

/-- **What is there is left as it is** by calls that are licensed. -/
theorem Heard.kept (h : Heard m c xs d) (hlicensed : IsLicensed xs) : c.Kept d := by
  obtain ⟨later, hserved⟩ := h.served []
  have hstart : Intact c ⟨c, [], []⟩ :=
    ⟨nofun, fun _ => .refl _, fun _ => Or.inr rfl, fun _ => .refl _⟩
  have hintact := hstart.served hserved hlicensed (.nil _)
  refine ⟨fun owner => (hintact.shippers owner).eq_of_ne_nil, fun name hname => ?_,
    fun app => (hintact.machines app).eq_of_ne_nil⟩
  rcases hintact.addOns name with hnone | hsame
  · exact absurd hnone hname
  · exact hsame

/-! ## Courses that succeed

  The rules of a small logic: for nothing asked, for one call, and for two courses in a row
  (`Succeeds.andThen`).  A proof about a step applies these along the course, and has to show for
  each call only what the cloud replies. -/

section Succeeds

variable {α β : Type} {P : Course α} {Q : α → Course β} {post : α → List Exchange → Cloud → Prop}
  {rest : β → List Exchange → Cloud → Prop} {p : Procedure α} {value : α}

/-- While the cloud answers, the course ends with a value of which this holds. -/
def Succeeds (m : Minting) (c : Cloud) (P : Course α) (post : α → List Exchange → Cloud → Prop) :
    Prop :=
  ∀ xs r d, P xs r → Heard m c xs d → ∃ value, r = .ok value ∧ post value xs d

/-- What needs no call succeeds with its value, and leaves the cloud as it is. -/
theorem Succeeds.plain (h : post value [] c) : Succeeds m c (Plain (.ok value)) post := by
  intro xs r d hplain hheard
  cases hplain
  obtain rfl := heard_nil.mp hheard
  exact ⟨value, rfl, h⟩

/-- One call succeeds if the operation has a value of the cloud's own reply. -/
theorem Succeeds.once (hgiven : p.given (c.reply m call) = .ok value)
    (h : post value [(call, c.reply m call)] (c.apply m call)) :
    Succeeds m c (Once call p) post := by
  intro xs r d honce hheard
  cases honce
  obtain ⟨rfl, hend⟩ := heard_cons.mp hheard
  obtain rfl := heard_nil.mp hend
  exact ⟨value, hgiven, h⟩

/-- **One after the other**: the second course starts from the cloud that the first one leaves. -/
theorem Succeeds.andThen (hP : Succeeds m c P post)
    (hQ : ∀ value ys d, P ys (.ok value) → Heard m c ys d → post value ys d →
      Succeeds m d (Q value) fun last zs e => rest last (ys ++ zs) e) :
    Succeeds m c (Then P Q) rest := by
  intro xs r d hthen hheard
  -- the first course succeeds, so the whole cannot have stopped in it
  cases hthen with
  | stopped hstop =>
    obtain ⟨value, hr, -⟩ := hP _ _ _ hstop hheard
    cases hr
  | went hfirst hrest =>
    obtain ⟨e, hbefore, hafter⟩ := heard_append.mp hheard
    obtain ⟨value, hr, hpost⟩ := hP _ _ _ hfirst hbefore
    cases hr
    exact hQ _ _ _ hfirst hbefore hpost _ _ _ hrest hafter

end Succeeds

/-! ## The provider's secrets

  An automatic provider takes the token of the add-on that is there, or of the one it makes.  Any
  other takes the answers, which have to be accepted. -/

/-- These are the provider's secrets for the app: the token of the add-on that is there, or what is
    collected from the answers. -/
def Cloud.Provides (c : Cloud) (appName : String) (provider : Provider) (answers : Answers)
    (secrets : List Secret) : Prop :=
  if provider.auto then
    ∃ addOn, c.addOns (addOnName appName) = some addOn ∧
      secrets = provider.tokenSecret.toList.map fun key => ⟨key, addOn.token⟩
  else answers.collect provider = .ok secrets

/-- The answers are accepted for the provider: they are not asked for, or they can be collected. -/
def Answers.Accepted (answers : Answers) (provider : Provider) : Prop :=
  provider.auto = false → ∃ secrets, answers.collect provider = .ok secrets

section Provides

variable {appName : String} {provider : Provider} {answers : Answers} {secrets others : List Secret}

/-- For an automatic provider the cloud has to have the add-on, whose token is the secret. -/
theorem Cloud.provides_of_auto (hauto : provider.auto = true) :
    c.Provides appName provider answers secrets ↔
      ∃ addOn, c.addOns (addOnName appName) = some addOn ∧
        secrets = provider.tokenSecret.toList.map fun key => ⟨key, addOn.token⟩ := by
  unfold Cloud.Provides
  rw [if_pos hauto]

/-- For any other provider the cloud has nothing to do with it: the answers decide. -/
theorem Cloud.provides_of_manual (hmanual : ¬ provider.auto = true) :
    c.Provides appName provider answers secrets ↔ answers.collect provider = .ok secrets := by
  unfold Cloud.Provides
  rw [if_neg hmanual]

/-- What a cloud provides it still provides later, since an add-on that is there stays. -/
theorem Cloud.Kept.provides (hkept : c.Kept d) (h : c.Provides appName provider answers secrets) :
    d.Provides appName provider answers secrets := by
  by_cases hauto : provider.auto = true
  · rw [Cloud.provides_of_auto hauto] at h ⊢
    obtain ⟨addOn, haddOn, hsecrets⟩ := h
    have hsome : c.addOns (addOnName appName) ≠ none := by simp [haddOn]
    exact ⟨addOn, (hkept.addOns _ hsome).trans haddOn, hsecrets⟩
  · rw [Cloud.provides_of_manual hauto] at h ⊢
    exact h

/-- There is one list of secrets at most. -/
theorem Cloud.Provides.unique (h : c.Provides appName provider answers secrets)
    (hother : c.Provides appName provider answers others) : others = secrets := by
  by_cases hauto : provider.auto = true
  · rw [Cloud.provides_of_auto hauto] at h hother
    obtain ⟨addOn, haddOn, rfl⟩ := h
    obtain ⟨other, hfound, rfl⟩ := hother
    rw [haddOn] at hfound
    cases hfound
    rfl
  · rw [Cloud.provides_of_manual hauto] at h hother
    rw [h] at hother
    cases hother
    rfl

end Provides

theorem heldToken_of_ne (addOn : AddOn) (h : addOn.token ≠ "") :
    heldToken addOn = .ok addOn.token := by
  unfold heldToken
  rw [if_neg h]

/-- **Provisioning an add-on** leaves it there, and makes nothing if it was there before. -/
theorem succeeds_addOn (hm : m.IsSound) (hc : c.IsSound) (target : App) {slug : String}
    (hslug : Provider.addOnType? slug ≠ none) :
    Succeeds m c (AddOnCourse target slug) fun token xs d =>
      (∃ addOn, d.addOns (addOnName target.name) = some addOn ∧ token = addOn.token) ∧
      d.apps = c.apps ∧
      (c.addOns (addOnName target.name) ≠ none → d = c ∧ kinds xs = [.addOn]) := by
  intro xs r d hcourse hheard
  cases haddOn : c.addOns (addOnName target.name) with
  -- the add-on is there: the look-up finds it, and every other end of the course contradicts it
  | some addOn =>
    have hlook := Cloud.given_addOn (m := m) haddOn
    have htoken := heldToken_of_ne addOn (hc.addOns _ _ haddOn)
    cases hcourse with
    | found hfound =>
      obtain ⟨rfl, hend⟩ := heard_cons.mp hheard
      obtain rfl := heard_nil.mp hend
      cases hlook.symm.trans hfound
      exact ⟨_, htoken, ⟨addOn, haddOn, rfl⟩, rfl, fun _ => ⟨rfl, rfl⟩⟩
    | failed hfailed | unsupported hfailed | refused hfailed | created hfailed =>
      obtain ⟨rfl, -⟩ := heard_cons.mp hheard
      cases hlook.symm.trans hfailed
  | none =>
    -- it is not there: the look-up says so, and the course can only go on to the creation
    obtain ⟨fault, hlook, hkind⟩ := Cloud.given_addOn_of_none (m := m) haddOn
    cases hcourse with
    | found hfound =>
      obtain ⟨rfl, -⟩ := heard_cons.mp hheard
      cases hlook.symm.trans hfound
    | failed hfailed hother =>
      obtain ⟨rfl, -⟩ := heard_cons.mp hheard
      cases hlook.symm.trans hfailed
      exact absurd hkind hother
    | unsupported _ _ htype => exact absurd htype hslug
    | refused _ _ _ hmade =>
      obtain ⟨-, hcreate⟩ := heard_cons.mp hheard
      obtain ⟨rfl, -⟩ := heard_cons.mp hcreate
      cases Cloud.given_createAddOn.symm.trans hmade
    | created _ _ _ hmade =>
      obtain ⟨-, hcreate⟩ := heard_cons.mp hheard
      obtain ⟨rfl, hend⟩ := heard_cons.mp hcreate
      obtain rfl := heard_nil.mp hend
      cases Cloud.given_createAddOn.symm.trans hmade
      have htoken := heldToken_of_ne (c.newAddOn m (addOnName target.name)) (hm.addOnToken _)
      refine ⟨_, htoken, ⟨_, Function.update_self .., rfl⟩, rfl, fun hsome => absurd rfl hsome⟩

/-- **Getting the provider's secrets** leaves what they are made from, and makes nothing if it was
    there before. -/
theorem succeeds_provider (hm : m.IsSound) (hc : c.IsSound) (target : App) {provider : Provider}
    {answers : Answers} (hoffer : provider ∈ Provider.catalog)
    (haccepted : answers.Accepted provider) :
    Succeeds m c (ProviderCourse target provider answers) fun secrets xs d =>
      d.Provides target.name provider answers secrets ∧ d.apps = c.apps ∧
      ((∃ old, c.Provides target.name provider answers old) →
        d = c ∧ kinds xs = if provider.auto then [.addOn] else []) := by
  by_cases hauto : provider.auto = true
  · have haddOn := succeeds_addOn hm hc target (addOnType?_ne_none hoffer hauto)
    unfold ProviderCourse
    simp only [Cloud.provides_of_auto hauto, if_pos hauto]
    refine haddOn.andThen fun token ys d _ _ ⟨⟨addOn, hthere, htoken⟩, happs, hfound⟩ => .plain ?_
    refine ⟨⟨addOn, hthere, by rw [htoken]⟩, happs, fun ⟨old, before, hbefore, _⟩ => ?_⟩
    rw [List.append_nil]
    exact hfound (by simp [hbefore])
  · obtain ⟨secrets, hcollect⟩ := haccepted (by simpa using hauto)
    unfold ProviderCourse
    simp only [Cloud.provides_of_manual hauto, if_neg hauto, hcollect]
    exact .plain ⟨rfl, rfl, fun _ => ⟨rfl, rfl⟩⟩

/-! ## The machine and the shipper

  The two steps that find or make.  In both, what is there afterwards is one thing, and nothing
  else has changed. -/

/-- **Ensuring a machine** leaves one, and launches nothing if there was one before. -/
theorem succeeds_machine (hm : m.IsSound) {image : String} (shipper : App)
    (hname : Text.isBlankText shipper.name = false)
    (hids : ∀ machine ∈ c.machines shipper.name, machine.id ≠ "") :
    Succeeds m c (MachineCourse image shipper) fun _ xs d =>
      d.machines shipper.name ≠ [] ∧ d.apps = c.apps ∧
      (c.machines shipper.name ≠ [] → d = c ∧ kinds xs = [.list]) := by
  have hlist := Cloud.given_list (m := m) hids
  intro xs r d hcourse hheard
  cases hcourse with
  | blank hblank =>
    rw [hname] at hblank
    cases hblank
  | unlisted _ hlisted =>
    obtain ⟨rfl, -⟩ := heard_cons.mp hheard
    cases hlist.symm.trans hlisted
  | found _ hlisted hsome =>
    obtain ⟨rfl, hend⟩ := heard_cons.mp hheard
    obtain rfl := heard_nil.mp hend
    cases hlist.symm.trans hlisted
    exact ⟨(), rfl, hsome, rfl, fun _ => ⟨rfl, rfl⟩⟩
  | nowhere _ _ hregion =>
    obtain ⟨-, hnear⟩ := heard_cons.mp hheard
    obtain ⟨rfl, -⟩ := heard_cons.mp hnear
    cases (Cloud.given_nearestRegion hm.region).symm.trans hregion
  | refused _ _ _ hmade =>
    obtain ⟨-, hnear⟩ := heard_cons.mp hheard
    obtain ⟨-, hlaunch⟩ := heard_cons.mp hnear
    obtain ⟨rfl, -⟩ := heard_cons.mp hlaunch
    cases (Cloud.given_launch (hm.machineId _)).symm.trans hmade
  | @launched _ _ region _ _ _ hlisted _ _ =>
    obtain ⟨rfl, hnear⟩ := heard_cons.mp hheard
    obtain ⟨-, hlaunch⟩ := heard_cons.mp hnear
    obtain ⟨-, hend⟩ := heard_cons.mp hlaunch
    obtain rfl := heard_nil.mp hend
    have hnone : c.machines shipper.name = [] := Except.ok.inj (hlist.symm.trans hlisted)
    refine ⟨(), rfl, ?_, rfl, fun hsome => absurd hnone hsome⟩
    -- the machine that was launched is listed from now on
    show Function.update c.machines shipper.name _ shipper.name ≠ []
    simp

/-- The organization has an app of this name. -/
def Cloud.Owns (c : Cloud) (owner name : String) : Prop :=
  ∃ app, c.app? name = some app ∧ app.organization.id = owner

/-- An organization that has an app is known. -/
theorem Cloud.Owns.organization? {owner name : String} (h : c.Owns owner name) :
    ∃ organization, c.organization? owner = some organization ∧ organization.id = owner := by
  obtain ⟨app, happ, howner⟩ := h
  have hmem : app.organization ∈ c.apps.map (·.organization) :=
    List.mem_map_of_mem (List.mem_of_find?_eq_some happ)
  cases hfind : c.organization? owner with
  | some organization =>
    have hid := List.find?_some hfind
    exact ⟨organization, rfl, by simpa using hid⟩
  | none =>
    have hnot := List.find?_eq_none.mp hfind _ hmem
    exact absurd howner (by simpa using hnot)

/-- The app that is put is found under its name, and the others under theirs. -/
theorem Cloud.find?_putApp (app : App) (apps : List App) (name : String) :
    (Cloud.putApp app apps).find? (·.name == name) =
      if app.name = name then some app else apps.find? (·.name == name) := by
  induction apps with
  | nil => by_cases hname : app.name = name <;> simp [Cloud.putApp, hname]
  | cons a rest ih =>
    unfold Cloud.putApp
    by_cases hsame : a.name = app.name
    · rw [if_pos hsame, List.find?_cons, List.find?_cons, hsame]
      by_cases hname : app.name = name
      · simp [hname]
      · have hother : (app.name == name) = false := beq_eq_false_iff_ne.mpr hname
        simp [hother, hname]
    · rw [if_neg hsame, List.find?_cons, List.find?_cons, ih]
      by_cases hname : app.name = name
      · have hother : (a.name == name) = false := beq_eq_false_iff_ne.mpr (hname ▸ hsame)
        simp [hother, hname]
      · simp [hname]

/-- Creating an app of an organization takes no app away from it. -/
theorem Cloud.Owns.createApp {owner name other : String} {role : Option String} {machines : Bool}
    (h : c.Owns owner name) :
    (c.apply m (.query (.createApp owner other role machines))).Owns owner name := by
  obtain ⟨organization, horganization, hid⟩ := h.organization?
  obtain ⟨app, happ, howner⟩ := h
  have hnew : c.newApp? m owner other = some ⟨m.appId c.made, other, organization⟩ := by
    simp [Cloud.newApp?, horganization]
  simp only [Cloud.apply, hnew, Cloud.Owns, Cloud.app?, Cloud.find?_putApp]
  by_cases hname : other = name
  · exact ⟨_, if_pos hname, hid⟩
  · exact ⟨app, (if_neg hname).trans happ, howner⟩

/-- Equipping a shipper with its machine changes neither the shippers nor the apps. -/
theorem succeeds_equip (hm : m.IsSound) {image owner : String} {shipper : App}
    (hname : Text.isBlankText shipper.name = false)
    (hids : ∀ machine ∈ c.machines shipper.name, machine.id ≠ "")
    (hlisted : c.roleApps shipperRole owner ≠ []) :
    Succeeds m c (Then (MachineCourse image shipper) fun _ => Plain (.ok shipper)) fun value _ d =>
      value = shipper ∧ d.roleApps shipperRole owner = c.roleApps shipperRole owner ∧
      d.apps = c.apps := by
  refine (succeeds_machine hm shipper hname hids).andThen fun _ ys d hmachine hheard
    ⟨_, happs, _⟩ => ?_
  have hkept := hheard.kept hmachine.moves.isLicensed
  exact .plain ⟨rfl, hkept.shippers _ hlisted, happs⟩

/-- **Ensuring the shipper** leaves one, and makes nothing if there was one before. -/
theorem succeeds_shipper (hm : m.IsSound) (hc : c.IsSound) {image appName : String}
    {organization : Organization} (howns : c.Owns organization.id appName) :
    Succeeds m c (ShipperCourse image organization) fun shipper xs d =>
      (∃ app others, d.roleApps shipperRole organization.id = app :: others ∧ shipper = app.seen) ∧
      d.Owns organization.id appName ∧
      (c.roleApps shipperRole organization.id ≠ [] → d = c ∧ kinds xs = [.appsByRole]) := by
  obtain ⟨known, hknown, -⟩ := howns.organization?
  have hnew : c.newApp? m organization.id (shipperAppName organization.rawSlug) =
      some ⟨m.appId c.made, shipperAppName organization.rawSlug, known⟩ := by
    simp [Cloud.newApp?, hknown]
  intro xs r d hcourse hheard
  cases hcourse with
  | unlisted hfailed =>
    obtain ⟨rfl, -⟩ := heard_cons.mp hheard
    cases Cloud.given_appsByRole.symm.trans hfailed
  | found hfound =>
    obtain ⟨rfl, hend⟩ := heard_cons.mp hheard
    obtain rfl := heard_nil.mp hend
    have hshippers := Except.ok.inj (Cloud.given_appsByRole.symm.trans hfound)
    obtain ⟨app, others, happs, hseen, -⟩ := List.map_eq_cons_iff.mp hshippers
    exact ⟨_, rfl, ⟨app, others, happs, hseen.symm⟩, howns, fun _ => ⟨rfl, rfl⟩⟩
  | refused _ hmade =>
    obtain ⟨-, hcreate⟩ := heard_cons.mp hheard
    obtain ⟨rfl, -⟩ := heard_cons.mp hcreate
    cases (Cloud.given_createApp hnew).symm.trans hmade
  | created hnone hmade hequip =>
    obtain ⟨rfl, hcreate⟩ := heard_cons.mp hheard
    obtain ⟨rfl, hmachine⟩ := heard_cons.mp hcreate
    cases (Cloud.given_createApp hnew).symm.trans hmade
    have hempty : c.roleApps shipperRole organization.id = [] :=
      List.map_eq_nil_iff.mp (Except.ok.inj (Cloud.given_appsByRole.symm.trans hnone))
    -- the cloud once the app is created, from which the machine is ensured
    generalize hcloud : Cloud.apply m _ (createShipperCall organization) = made at hmachine
    have hmadeSound : made.IsSound :=
      hcloud ▸ hc.apply hm (isBlankText_shipperAppName organization.rawSlug)
    have hmadeOwns : made.Owns organization.id appName := hcloud ▸ howns.createApp
    have hmadeApps : made.roleApps shipperRole organization.id =
        [⟨m.appId c.made, shipperAppName organization.rawSlug, known⟩] := by
      subst hcloud
      show (Cloud.apply m c _).roleApps _ _ = _
      simp [Cloud.apply, createShipperCall, hnew, hempty]
    have hsome : made.roleApps shipperRole organization.id ≠ [] := by simp [hmadeApps]
    obtain ⟨shipper, rfl, rfl, hshippers, happs⟩ :=
      succeeds_equip hm (isBlankText_shipperAppName organization.rawSlug)
        (hmadeSound.machines _) hsome
        _ _ _ hequip hmachine
    refine ⟨_, rfl, ⟨_, [], hshippers.trans hmadeApps, rfl⟩, ?_, fun hsome => absurd hempty hsome⟩
    unfold Cloud.Owns Cloud.app?
    rw [happs]
    exact hmadeOwns

end LogDrain
