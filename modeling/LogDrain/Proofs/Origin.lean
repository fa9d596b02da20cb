/-
  WHERE THE DATA OF A SETUP COME FROM: every name, id, token and region that a setup sends.

  A setup deals with two apps, each with an organization, and with two tokens.  For a setup that
  ends well, all that it sends comes from six replies and the answers:

    1. the app that it is for is the one that the first reply gives;
    2. the shipper is the first node of the look-up by role, or the app that was created after it;
    3. add-ons and shippers are asked for and created under names made from the first app
       (`Plan.Sends`), and everything on machines and secrets is about the shipper;
    4. a machine is launched in the region that the reply right before gives;
    5. the token that is issued is written first and alone;
    6. the provider's secrets are written next: the token of the add-on that a reply gives, or the
       answers; and the machines restarted are those of the last listing, in its order.

  `ship_sourced` has all six, with the summary that is made of them.  Nothing here depends on who
  replies, and the replies are looked at as values (`Proofs.Path`).

  A course has for each value the reply that gave it, so there is nothing to search for: a setup
  is taken apart at its two stages (`ShipCourse.stages`), the plan has the values that the first
  stage found, and the second stage is about the plan alone.
-/
import LogDrain.Proofs.Cloud
import LogDrain.Proofs.Collected
import LogDrain.Proofs.Path
import LogDrain.Proofs.Stage
import LogDrain.Proofs.Trimming

namespace LogDrain.Setup

open Procedure

/-! ## What is sent

  One predicate on calls, with the plan as its parameter: `Plan.Sends` lists for each kind of call
  what its arguments have to be.  Each step of a course satisfies it, and since it speaks of
  single calls, steps are put together by `List.forall_mem_append`. -/

/-- The image that the environment sets, trimmed; a blank one counts as none. -/
theorem shipperImage_eq (env : Environment) :
    shipperImage env =
      if Text.isBlankText ((env "LOG_SHIPPER_IMAGE").getD "") then defaultImage
      else Text.trim ((env "LOG_SHIPPER_IMAGE").getD "") := by
  have hblank := @Text.trim_eq_empty_iff ((env "LOG_SHIPPER_IMAGE").getD "")
  unfold shipperImage textOr
  by_cases h : Text.isBlankText ((env "LOG_SHIPPER_IMAGE").getD "") = true
  · rw [if_pos h, if_pos (hblank.mpr h)]
  · rw [if_neg h, if_neg fun htrim => h (hblank.mp htrim)]

/-- What a setup with this plan may send: each call with its data, and where these come from. -/
def Plan.Sends (plan : Plan) (env : Environment) (appName : String) : Call → Prop
  | .query (.app name) => name = appName
  | .query (.addOn name) => name = plan.target.name ++ "-log-shipper"
  | .query (.createAddOn organizationId name appId addOnType) =>
    organizationId = plan.target.organization.id ∧ name = plan.target.name ++ "-log-shipper" ∧
      appId = plan.target.id ∧ Provider.addOnType? plan.provider.slug = some addOnType
  | .query (.appsByRole role organizationId) =>
    role = "log-shipper" ∧ organizationId = plan.target.organization.id
  | .query (.createApp organizationId name role machines) =>
    organizationId = plan.target.organization.id ∧
      name = plan.target.organization.rawSlug ++ "-auto-log-shipper" ∧
      role = some "log-shipper" ∧ machines = true
  | .query .nearestRegion => True
  | .query (.createToken name organizationId profile params expiry) =>
    name = plan.shipper.organization.slug ++ "-logs" ∧
      organizationId = plan.shipper.organization.id ∧
      profile = "read_organization_apps" ∧ params = .null ∧ expiry = none
  | .query (.setSecrets appId _) => appId = plan.shipper.id
  | .machines app (.launch what) =>
    app = plan.shipper.name ∧
      what.config.image = if Text.isBlankText ((env "LOG_SHIPPER_IMAGE").getD "") then defaultImage
        else Text.trim ((env "LOG_SHIPPER_IMAGE").getD "")
  | .machines app .list | .machines app (.restart _) => app = plan.shipper.name
  | .machines _ (.wait ..) => False

variable {plan : Plan} {env : Environment} {appName : String} {answers : Answers}
  {xs : List Exchange}

/-- The add-on is looked up and created under the name that is made from the app's, and belongs to
    that app and its organization. -/
theorem AddOnCourse.sends {r : Except Fault String}
    (h : AddOnCourse plan.target plan.provider.slug xs r) :
    ∀ x ∈ xs, plan.Sends env appName x.1 := by
  have hlook : plan.Sends env appName (addOnCall plan.target) := rfl
  cases h with
  | found | failed | unsupported =>
    intro x hx
    rw [List.mem_singleton.mp hx]
    exact hlook
  | refused _ _ htype | created _ _ htype =>
    intro x hx
    rcases List.mem_cons.mp hx with rfl | hx
    · exact hlook
    · rw [List.mem_singleton.mp hx]
      exact ⟨rfl, rfl, rfl, htype⟩

/-- What an automatic provider asks for is its add-on, and any other asks for nothing. -/
theorem ProviderCourse.sends {r : Except Fault (List Secret)}
    (h : ProviderCourse plan.target plan.provider answers xs r) :
    ∀ x ∈ xs, plan.Sends env appName x.1 := by
  unfold ProviderCourse at h
  split at h
  · exact h.forall_mem AddOnCourse.sends Plain.forall_mem
  · exact h.forall_mem

/-- The machines are those of the shipper, by its name, and so is the machine that is launched for
    it. -/
theorem MachineCourse.sends {r : Except Fault Unit}
    (h : MachineCourse (shipperImage env) plan.shipper xs r) :
    ∀ x ∈ xs, plan.Sends env appName x.1 := by
  have hlist : plan.Sends env appName (listCall plan.shipper) := rfl
  have hregion : plan.Sends env appName regionCall := trivial
  have hlaunch : ∀ region,
      plan.Sends env appName (launchCall (shipperImage env) plan.shipper region) :=
    fun _ => ⟨rfl, shipperImage_eq env⟩
  cases h with
  | blank => exact nofun
  | unlisted | found => simpa using hlist
  | nowhere => simpa using ⟨hlist, hregion⟩
  | refused | launched => simpa using ⟨hlist, hregion, hlaunch _⟩

/-- The shippers are looked up in the organization of the app, and one that is created is created
    there. -/
theorem ShipperCourse.sends
    (h : ShipperCourse (shipperImage env) plan.target.organization xs (.ok plan.shipper)) :
    ∀ x ∈ xs, plan.Sends env appName x.1 := by
  have hlook : plan.Sends env appName (shippersCall plan.target.organization) := ⟨rfl, rfl⟩
  have hmake : plan.Sends env appName (createShipperCall plan.target.organization) :=
    ⟨rfl, rfl, rfl, rfl⟩
  generalize hr : (.ok plan.shipper : Except Fault App) = r at h
  cases h with
  | unlisted | refused => cases hr
  | found =>
    intro x hx
    rw [List.mem_singleton.mp hx]
    exact hlook
  | created _ _ hequip =>
    subst hr
    obtain ⟨_, ys, zs, rfl, hmachine, hplain⟩ := Then.of_ok hequip
    obtain ⟨rfl, hshipper⟩ := hplain.eq
    -- the shipper that was created is the one that the setup goes on with
    cases hshipper
    intro x hx
    rcases List.mem_cons.mp hx with rfl | hx
    · exact hlook
    rcases List.mem_cons.mp hx with rfl | hx
    · exact hmake
    · rw [List.append_nil] at hx
      exact hmachine.sends x hx

/-- By induction on the machines that are restarted: each call names the shipper's app. -/
theorem RestartCourse.sends {machines : List Machine} {r : Except Fault Unit}
    (h : RestartCourse plan.shipper.name true machines xs r) :
    ∀ x ∈ xs, plan.Sends env appName x.1 := by
  induction h with
  | nil | unnamed => exact nofun
  | refused =>
    intro x hx
    rw [List.mem_singleton.mp hx]
    exact rfl
  | unready _ hskip | waited _ hskip => cases hskip
  | skipped _ _ _ _ ih =>
    intro x hx
    rcases List.mem_cons.mp hx with rfl | hx
    · exact rfl
    · exact ih x hx

theorem SecretsCourse.sends {r : Except Fault Unit}
    (h : SecretsCourse plan.shipper plan.secrets xs r) : ∀ x ∈ xs, plan.Sends env appName x.1 := by
  unfold SecretsCourse at h
  split at h
  · exact h.forall_mem
  · obtain ⟨reply, rfl, -⟩ := h.exists_reply
    intro x hx
    rw [List.mem_singleton.mp hx]
    exact rfl

/-! ## How a setup ends that ends well

  From here on the result matters: a deployment that went to its end has left its five parts in
  the exchanges, in this order, and each part is read off the course it went through. -/

/-- What is written of the provider's secrets: nothing, if there are none. -/
def Plan.secretsCalls (plan : Plan) : List Call :=
  if plan.secrets = [] then [] else [.query (.setSecrets plan.shipper.id plan.secrets)]

/-- There is one such call, or none if there are no secrets. -/
theorem SecretsCourse.calls_eq {r : Except Fault Unit}
    (h : SecretsCourse plan.shipper plan.secrets xs r) : xs.map Prod.fst = plan.secretsCalls := by
  unfold SecretsCourse at h
  unfold Plan.secretsCalls
  split at h
  · rename_i hnone
    rw [if_pos hnone, h.eq.1]
    rfl
  · rename_i hsome
    obtain ⟨reply, rfl, -⟩ := h.exists_reply
    rw [if_neg hsome]
    rfl

/-- Where every restart was accepted, every machine was restarted, in order. -/
theorem RestartCourse.calls_eq {app : String} {machines : List Machine}
    (h : RestartCourse app true machines xs (.ok ())) :
    xs.map Prod.fst = (machines.map (·.id)).map fun id => .machines app (.restart id) := by
  generalize hr : (.ok () : Except Fault Unit) = r at h
  induction h with
  | nil => rfl
  | unnamed | refused | unready => cases hr
  | waited _ hskip => cases hskip
  | skipped _ _ _ _ ih =>
    rw [List.map_cons, ih hr]
    rfl

/-- After nothing was deployed before: a token is issued and written alone, the provider's secrets
    are written, machines are listed, and these are restarted. -/
def Plan.Deploys (plan : Plan) (token : String) (xs : List Exchange) : Prop :=
  ∃ before issue wrote provided listing ids restarts,
    xs = before ++ (tokenCall plan.shipper, issue) ::
      (.query (.setSecrets plan.shipper.id [⟨"NATS_TOKEN", token⟩]), wrote) ::
      (provided ++ (.machines plan.shipper.name .list, listing) :: restarts) ∧
    (∀ x ∈ before, ¬ x.1.Deploys) ∧ GivesToken issue token ∧
    provided.map Prod.fst = plan.secretsCalls ∧ GivesMachines listing ids ∧
    restarts.map Prod.fst = ids.map fun id => .machines plan.shipper.name (.restart id)

/-- **A deployment that ends well has its five parts in a row**: the token, its being written, the
    provider's secrets, the listing and the restarts.  What came before wrote nothing. -/
theorem Deployment.deploys {before : List Exchange} {count : Nat}
    (h : Deployment plan.shipper plan.secrets xs (.ok count))
    (hbefore : ∀ x ∈ before, ¬ x.1.Deploys) : ∃ token, plan.Deploys token (before ++ xs) := by
  generalize hr : (.ok count : Except Fault Nat) = r at h
  cases h with
  | untold | unwritten | unprovided => cases hr
  -- only the case that went to the end is left, and there the redeployment shows its listing
  | @written issue token wrote provided restarted _ hissue hprovided hredeploy =>
    cases hredeploy with
    | blank | unlisted => cases hr
    | @listed listing machines restarts q _ hlist hrestart =>
      cases q with
      | error fault => cases hr
      | ok value =>
        refine ⟨token, before, issue, wrote, provided, listing, machines.map (·.id), restarts, rfl,
          hbefore, Platform.given_createToken_iff.mp hissue, hprovided.calls_eq,
          Machines.givesMachines_of_list hlist, hrestart.calls_eq⟩

/-- A redeployment lists and restarts the machines of the shipper. -/
theorem RedeployCourse.sends {r : Except Fault Nat} (h : RedeployCourse plan.shipper true xs r) :
    ∀ x ∈ xs, plan.Sends env appName x.1 := by
  cases h with
  | blank => exact nofun
  | unlisted =>
    intro x hx
    rw [List.mem_singleton.mp hx]
    exact rfl
  | listed _ _ hrestart =>
    intro x hx
    rcases List.mem_cons.mp hx with rfl | hx
    · exact rfl
    · exact hrestart.sends x hx

/-- However far a deployment gets, it sends nothing else. -/
theorem Deployment.sends {r : Except Fault Nat} (h : Deployment plan.shipper plan.secrets xs r) :
    ∀ x ∈ xs, plan.Sends env appName x.1 := by
  have htoken : plan.Sends env appName (tokenCall plan.shipper) := ⟨rfl, rfl, rfl, rfl, rfl⟩
  have hwrite : ∀ token, plan.Sends env appName (secretsCall plan.shipper [⟨tokenKey, token⟩]) :=
    fun _ => rfl
  cases h with
  | untold => exact List.forall_mem_cons.mpr ⟨htoken, nofun⟩
  | unwritten =>
    exact List.forall_mem_cons.mpr ⟨htoken, List.forall_mem_cons.mpr ⟨hwrite _, nofun⟩⟩
  | unprovided _ hprovided =>
    exact List.forall_mem_cons.mpr ⟨htoken, List.forall_mem_cons.mpr ⟨hwrite _, hprovided.sends⟩⟩
  | written _ hprovided hredeploy =>
    refine List.forall_mem_cons.mpr ⟨htoken, List.forall_mem_cons.mpr ⟨hwrite _, ?_⟩⟩
    exact List.forall_mem_append.mpr ⟨hprovided.sends, hredeploy.sends⟩

/-- Everything before the deployment is sent as the plan says, step by step. -/
theorem Prepared.sends (h : Prepared (shipperImage env) appName answers plan xs) :
    ∀ x ∈ xs, plan.Sends env appName x.1 := by
  obtain ⟨-, -, hprovided, hshipped, hequipped⟩ := h
  intro x hx
  rcases List.mem_cons.mp hx with rfl | hx
  · exact rfl
  rcases List.mem_append.mp hx with hx | hx
  · exact hprovided.sends x hx
  rcases List.mem_append.mp hx with hx | hx
  · exact hshipped.sends x hx
  · exact hequipped.sends x hx

/-! ## What the replies give

  The plan itself comes from replies: from which ones is said in terms of paths (`Proofs.Path`),
  and does not change when the run goes on, which is why these are statements on membership. -/

/-- The shipper is the first node that the look-up by role gives, or, where it gives none, the app
    that was created. -/
def GivesPlannedShipper (shipper : App) (xs : List Exchange) : Prop :=
  (∃ x ∈ xs, x.1.kind = .appsByRole ∧ GivesShipper x.2 shipper) ∨
  ∃ x ∈ xs, ∃ y ∈ xs, x.1.kind = .appsByRole ∧ ShowsNoShipper x.2 ∧ y.1.kind = .createApp ∧
    GivesNewApp y.2 shipper

/-- The add-on is the one that was found, or the one that was created. -/
def GivesPlannedAddOn (addOn : AddOn) (xs : List Exchange) : Prop :=
  (∃ x ∈ xs, x.1.kind = .addOn ∧ GivesAddOn x.2 addOn) ∨
  ∃ x ∈ xs, x.1.kind = .createAddOn ∧ GivesNewAddOn x.2 addOn

/-- The secrets of the plan: the add-on's token under the provider's name for it, or what the
    answers have for the variables of the provider. -/
def Plan.SecretsFrom (plan : Plan) (answers : Answers) (xs : List Exchange) : Prop :=
  if plan.provider.auto then
    ∃ addOn, GivesPlannedAddOn addOn xs ∧ addOn.token ≠ "" ∧
      plan.secrets = plan.provider.tokenSecret.toList.map fun key => ⟨key, addOn.token⟩
  else
    plan.secrets = (answers.collectedVars plan.provider).map fun key => ⟨key, answers.value key⟩

/-- **The shipper was given by a reply**: as the first node of the look-up, or by the creation that
    follows a look-up without nodes. -/
theorem ShipperCourse.gives {image : String} {organization : Organization} {shipper : App}
    (h : ShipperCourse image organization xs (.ok shipper)) : GivesPlannedShipper shipper xs := by
  generalize hr : (.ok shipper : Except Fault App) = r at h
  cases h with
  | unlisted | refused => cases hr
  | found hlook =>
    cases hr
    exact Or.inl ⟨_, List.mem_cons_self, rfl, Platform.givesShipper_of_ok hlook⟩
  | @created reply made created zs _ hlook hmade hequip =>
    subst hr
    obtain ⟨_, _, _, rfl, -, hplain⟩ := Then.of_ok hequip
    obtain ⟨rfl, hshipper⟩ := hplain.eq
    cases hshipper
    have hmade : GivesNewApp made shipper := Platform.given_createApp_iff.mp hmade
    exact Or.inr ⟨_, List.mem_cons_self, _, List.mem_cons_of_mem _ List.mem_cons_self, rfl,
      Platform.showsNoShipper_of_nil hlook, rfl, hmade⟩

/-- A token that is held is the add-on's, and is something. -/
theorem eq_of_heldToken {addOn : AddOn} {token : String} (h : .ok token = heldToken addOn) :
    addOn.token ≠ "" ∧ token = addOn.token := by
  unfold heldToken at h
  split at h
  · cases h
  · rename_i htoken
    cases h
    exact ⟨htoken, rfl⟩

/-- The add-on's token was given by a reply: by that of the look-up, or by that of the creation. -/
theorem AddOnCourse.gives {target : App} {slug token : String}
    (h : AddOnCourse target slug xs (.ok token)) :
    ∃ addOn, GivesPlannedAddOn addOn xs ∧ addOn.token ≠ "" ∧ token = addOn.token := by
  generalize hr : (.ok token : Except Fault String) = r at h
  cases h with
  | failed | unsupported | refused => cases hr
  | found hfound =>
    have hgives := Platform.given_addOn_iff.mp hfound
    exact ⟨_, Or.inl ⟨_, List.mem_cons_self, rfl, hgives⟩, eq_of_heldToken hr⟩
  | created _ _ _ hmade =>
    have hgives := Platform.given_createAddOn_iff.mp hmade
    exact ⟨_, Or.inr ⟨_, List.mem_cons_of_mem _ List.mem_cons_self, rfl, hgives⟩,
      eq_of_heldToken hr⟩

/-- **Where the provider's secrets come from**: the add-on's token for an automatic provider, and
    the answers for any other. -/
theorem ProviderCourse.secretsFrom
    (h : ProviderCourse plan.target plan.provider answers xs (.ok plan.secrets)) :
    plan.SecretsFrom answers xs := by
  unfold ProviderCourse at h
  unfold Plan.SecretsFrom
  split at h
  · rename_i hauto
    rw [if_pos hauto]
    obtain ⟨token, ys, zs, rfl, hcourse, hplain⟩ := Then.of_ok h
    obtain ⟨addOn, hgives, htoken, rfl⟩ := hcourse.gives
    obtain ⟨rfl, hsecrets⟩ := hplain.eq
    rw [List.append_nil]
    exact ⟨addOn, hgives, htoken, Except.ok.inj hsecrets⟩
  · rename_i hauto
    rw [if_neg hauto]
    exact Answers.eq_of_collect (mapError_eq_ok.mp h.eq.2.symm)

theorem GivesPlannedShipper.mono {shipper : App} {ys : List Exchange}
    (h : GivesPlannedShipper shipper xs) (hsub : ∀ x ∈ xs, x ∈ ys) :
    GivesPlannedShipper shipper ys := by
  rcases h with ⟨x, hx, hgives⟩ | ⟨x, hx, y, hy, hgives⟩
  · exact Or.inl ⟨x, hsub x hx, hgives⟩
  · exact Or.inr ⟨x, hsub x hx, y, hsub y hy, hgives⟩

theorem GivesPlannedAddOn.mono {addOn : AddOn} {ys : List Exchange}
    (h : GivesPlannedAddOn addOn xs) (hsub : ∀ x ∈ xs, x ∈ ys) : GivesPlannedAddOn addOn ys := by
  rcases h with ⟨x, hx, hgives⟩ | ⟨x, hx, hgives⟩
  · exact Or.inl ⟨x, hsub x hx, hgives⟩
  · exact Or.inr ⟨x, hsub x hx, hgives⟩

/-- What a reply gave is still there in a longer run, and so the provider's secrets come from there
    too. -/
theorem Plan.SecretsFrom.mono {ys : List Exchange} (h : plan.SecretsFrom answers xs)
    (hsub : ∀ x ∈ xs, x ∈ ys) : plan.SecretsFrom answers ys := by
  unfold Plan.SecretsFrom at h ⊢
  split
  · rename_i hauto
    rw [if_pos hauto] at h
    obtain ⟨addOn, hgives, hrest⟩ := h
    exact ⟨addOn, hgives.mono hsub, hrest⟩
  · rename_i hauto
    rw [if_neg hauto] at h
    exact h

/-! ## The whole -/

/-- Where the data of a setup come from that ends with a summary. -/
structure Sourced (env : Environment) (appName : String) (answers : Answers) (plan : Plan)
    (token : String) (xs : List Exchange) (summary : Summary) : Prop where
  target : ∃ reply rest, xs = (.query (.app appName), reply) :: rest ∧ GivesApp reply plan.target
  provider : answers.select Provider.catalog = .ok plan.provider
  shipper : GivesPlannedShipper plan.shipper xs
  sends : ∀ x ∈ xs, plan.Sends env appName x.1
  region : ∀ before app what made after,
    xs = before ++ (.machines app (.launch what), made) :: after →
    ∃ earlier near, before = earlier ++ [(.query .nearestRegion, near)] ∧
      ShowsRegion near what.region
  tokens : (kinds xs).count .token = 1
  deploys : plan.Deploys token xs
  secrets : plan.SecretsFrom answers xs
  summary : summary =
    { targetApp := plan.target.name, provider := plan.provider.slug, shipperAppId := plan.shipper.id
      shipperAppName := plan.shipper.name, addOnProvisioned := plan.provider.auto
      secretsWritten := "NATS_TOKEN" :: plan.secrets.map (·.key) }

/-- The region was asked for right before the launch, since a machine is launched in no other way
    (`Move`). -/
theorem ShipCourse.region {image : String} {r : Except Fault Summary}
    (h : ShipCourse image appName answers xs r)
    (before : List Exchange) (app : String) (what : Launch) (made : Reply) (after : List Exchange)
    (hxs : xs = before ++ (.machines app (.launch what), made) :: after) :
    ∃ earlier near, before = earlier ++ [(.query .nearestRegion, near)] ∧
      ShowsRegion near what.region := by
  have hlicensed := h.moves.isLicensed
  rw [hxs] at hlicensed
  obtain ⟨earlier, listing, near, hbefore, -, hregion⟩ := LicensedFrom.licensed hlicensed
  exact ⟨earlier ++ [(.machines app .list, listing)], near, by simpa using hbefore, hregion⟩

/-- **All that a setup sends comes from the replies and the answers**, whoever replies. -/
theorem ship_sourced {σ : Type} (respond : σ → Call → Reply × σ) (env : Environment)
    (appName : String) (answers : Answers) (s : σ) {summary : Summary}
    (h : ((ship (shipperImage env) appName answers).run respond s).result = .ok summary) :
    ∃ plan token, Sourced env appName answers plan token
      ((ship (shipperImage env) appName answers).run respond s).exchanges summary := by
  have hcourse := shipCourse_of_run respond (shipperImage env) appName answers s
  rw [h] at hcourse
  -- three parts are read off the whole course, before the run is taken apart
  have hregion := hcourse.region
  obtain ⟨machines, -, hword⟩ := hcourse.restarted.lastListed
  have htokens := count_token _ hword
  have hstages := hcourse.stages
  generalize ((ship (shipperImage env) appName answers).run respond s).exchanges = xs at *
  generalize hr : (.ok summary : Except Fault Summary) = r at hstages
  cases hstages with
  | stopped => cases hr
  | @deployed plan before after q hprepared hdeployed =>
    cases q with
    | error fault => cases hr
    | ok count =>
      -- the others come from the two stages
      obtain ⟨token, hdeploys⟩ := hdeployed.deployment.deploys hprepared.not_deploys
      have hsends : ∀ x ∈ before ++ after, plan.Sends env appName x.1 := by
        intro x hx
        rcases List.mem_append.mp hx with hx | hx
        · exact hprepared.sends x hx
        · exact hdeployed.deployment.sends x hx
      obtain ⟨htarget, hselect, hprovided, hshipped, -⟩ := hprepared
      refine ⟨plan, token, ?_⟩
      exact
        { target := ⟨_, _, rfl, Platform.given_app_iff.mp htarget⟩
          provider := hselect
          shipper := hshipped.gives.mono fun x hx => by simp [hx]
          sends := hsends
          region := hregion
          tokens := htokens
          deploys := hdeploys
          secrets := hprovided.secretsFrom.mono fun x hx => by simp [hx]
          summary := Except.ok.inj hr }

/-! ## A setup with two organizations

  The app belongs to one organization and the shipper that is found to another; the token is
  issued for the second. -/

namespace Foreign

def target : App := ⟨"app_web", "acme-web", ⟨"org_acme", "acme", "acme-raw"⟩⟩

def shipper : App := ⟨"app_s", "shared-shipper", ⟨"org_ops", "ops", "ops-raw"⟩⟩

def addOn : AddOn := ⟨some "addon_1", "acme-web-log-shipper", "drain"⟩

def machine (id : String) : Machine := ⟨id, none, some "started", some "ord", none⟩

/-- The add-on and the machine are created; the shipper, of another organization, is the second
    node. -/
def replies : List Reply :=
  [Cloud.dataReply [("app", target.toJson)],
   Cloud.notFoundReply "add-on",
   Cloud.dataReply [("createAddOn", .obj [("addOn", addOn.toJson)])],
   Cloud.dataReply [("apps", .obj [("nodes", .arr [.null, shipper.toJson])])],
   Cloud.jsonReply (.arr []),
   Cloud.dataReply [("nearestRegion", .obj [("code", .str "ord")])],
   Cloud.jsonReply (machine "m_1").toJson,
   Cloud.dataReply
     [("createLimitedAccessToken", .obj [("limitedAccessToken", .obj [("token", .str "read")])])],
   Cloud.dataReply [],
   Cloud.dataReply [],
   Cloud.jsonReply (.arr [(machine "m_2").toJson, (machine "m_1").toJson]),
   Cloud.jsonReply (.obj []),
   Cloud.jsonReply (.obj [])]

/-- What the setup reports. -/
def summary : Summary :=
  { targetApp := "acme-web", provider := "logtail", shipperAppId := "app_s"
    shipperAppName := "shared-shipper", addOnProvisioned := true
    secretsWritten := ["NATS_TOKEN", "LOGTAIL_TOKEN"] }

end Foreign

open Foreign in
/-- The target's organization and the shipper's are not mixed up. -/
theorem sourced_two_organizations :
    let run := (ship (shipperImage fun _ => none) "acme-web" (.of (some "logtail") [])).run
      nextReply replies
    run.result = .ok Foreign.summary ∧ ∃ plan token,
      Sourced (fun _ => none) "acme-web" (.of (some "logtail") []) plan token run.exchanges
        Foreign.summary := by
  have h : ((ship (shipperImage fun _ => none) "acme-web" (.of (some "logtail") [])).run
      nextReply replies).result = .ok Foreign.summary := by decide +kernel
  exact ⟨h, ship_sourced nextReply (fun _ => none) "acme-web" (.of (some "logtail") []) replies h⟩

end LogDrain.Setup
