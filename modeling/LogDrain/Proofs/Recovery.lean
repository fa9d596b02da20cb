/-
  RECOVERY: after every history of interrupted setups, one setup that nothing disturbs repairs
  everything, and another one only rotates the token.

  What earlier setups left may be anything between nothing and everything: an app without a machine,
  a machine without secrets, secrets without a restart, an add-on without an app.  None of it has to
  be told apart, because each step of a setup leaves what it is for, whatever it starts from
  (`succeeds_provider`, `succeeds_shipper`, `succeeds_machine`, `succeeds_deploy`), and later steps
  keep it.

    * `Cloud.Ships`     what the cloud has once the logs are shipped;
    * `Delivered`       that, with the token of this very run, the secrets and the restarts;
    * `succeeds_ship`   a setup delivers; from a cloud that ships already it makes nothing.

  The history only has to leave the cloud sound, which it does (`isSound_after_history`).
-/
import LogDrain.Proofs.Rotation

namespace LogDrain

open Setup Procedure

variable {m : Minting} {c d : Cloud}

/-! ## What a setup delivers

  What it is for a cloud to ship the logs of an app: an add-on or the answers, a shipper, a
  machine, and the secrets in place. -/

/-- The cloud has what the setup is for: the app, the first shipper of its organization, a machine
    of the shipper, and what the provider's secrets are made from. -/
structure Cloud.Ships (c : Cloud) (j : Job) (owner : String) (provider : Provider) (shipper : App)
    (secrets : List Secret) : Prop where
  known : c.Owns owner j.appName
  listed : (c.roleApps shipperRole owner).head? = some shipper
  machines : c.machines shipper.name ≠ []
  provided : c.Provides j.appName provider j.answers secrets

/-- What a run of the setup delivers: the cloud ships, the shipper has the token that was issued in
    the run and the provider's secrets, and the run ended with the restart of each of the shipper's
    machines. -/
structure Delivered (j : Job) (owner : String) (provider : Provider) (shipper : App)
    (secrets : List Secret) (xs : List Exchange) (d : Cloud) : Prop where
  ships : d.Ships j owner provider shipper secrets
  issued : ∃ reply token, (tokenCall shipper.seen, reply) ∈ xs ∧
    (issueToken shipper.seen).given reply = .ok token ∧ d.secrets shipper.id tokenKey = some token
  written : ∀ s ∈ secrets, d.secrets shipper.id s.key = some s.value
  restarted : (d.machines shipper.name).map (restartCall shipper.name) <:+ xs.map Prod.fst

/-- What the setup reports. -/
def Job.report (j : Job) (provider : Provider) (shipper : App) (secrets : List Secret) : Summary :=
  { targetApp := j.appName, provider := provider.slug, shipperAppId := shipper.id
    shipperAppName := shipper.name, addOnProvisioned := provider.auto
    secretsWritten := tokenKey :: secrets.map (·.key) }

/-- The kinds of the calls of a setup that makes nothing but a token. -/
def rotationKinds (provider : Provider) (secrets : List Secret) (machines : Nat) : List CallKind :=
  .app :: ((if provider.auto then [.addOn] else []) ++ ([.appsByRole, .list] ++
    ([.token, .secrets] ++ (if secrets = [] then [] else [.secrets]) ++
      .list :: List.replicate machines .restart)))

theorem kinds_deployCalls (shipper : App) (secrets : List Secret) :
    (deployCalls m c shipper secrets).map Call.kind =
      [.token, .secrets] ++ (if secrets = [] then [] else [.secrets]) ++
        .list :: List.replicate (c.machines shipper.name).length .restart := by
  have hrestarts : ∀ machines : List Machine,
      (machines.map (restartCall shipper.name)).map Call.kind =
        List.replicate machines.length .restart := by
    intro machines
    induction machines with
    | nil => rfl
    | cons machine machines ih => exact congrArg (List.cons _) ih
  by_cases hnone : secrets = []
  · simp [deployCalls, hnone, hrestarts, tokenCall, secretsCall, listCall, Call.kind]
  · simp [deployCalls, hnone, hrestarts, tokenCall, secretsCall, listCall, Call.kind]

/-- Deploying delivers, where everything else is there. -/
theorem delivered_of_deployed (hm : m.IsSound) {j : Job} {owner : String} {provider : Provider}
    {shipper : App} {secrets : List Secret} {ys : List Exchange} (before : List Exchange)
    (hoffer : provider ∈ Provider.catalog) (hships : c.Ships j owner provider shipper secrets)
    (htoken : (tokenCall shipper.seen, c.reply m (tokenCall shipper.seen)) ∈ ys)
    (hcalls : ys.map Prod.fst = deployCalls m c shipper.seen secrets) :
    Delivered j owner provider shipper secrets (before ++ ys)
      ((c.rotated m shipper.id).putSecrets shipper.id secrets) := by
  obtain ⟨hnodup, hkey⟩ := hships.provided.keys hoffer
  -- deploying changes secrets only, so the cloud ships as before
  refine ⟨⟨hships.known, hships.listed, hships.machines, hships.provided⟩, ?_, fun s hs => ?_, ?_⟩
  · refine ⟨_, m.accessToken c.made, List.mem_append_right _ htoken,
      Cloud.given_createToken (hm.accessToken _), ?_⟩
    rw [Cloud.putSecrets_self, Cloud.writeAll_of_notMem hkey, Cloud.rotated_self,
      Function.update_self]
  · rw [Cloud.putSecrets_self]
    exact Cloud.writeAll_of_mem hnodup hs
  · rw [List.map_append, hcalls]
    refine List.IsSuffix.trans ?_ (List.suffix_append _ _)
    exact List.IsSuffix.trans (List.suffix_cons (listCall shipper.seen) _) (List.suffix_append _ _)

/-! ## The whole setup

  The steps in a row, from any sound cloud that has the app; what each step found or made is kept
  by those after it. -/

/-- What a setup of a provider leaves, as `succeeds_ship` says it: it delivers, and from a cloud
    that ships already it only rotates the token and writes the secrets again. -/
def Restores (m : Minting) (c : Cloud) (j : Job) (owner : String) (provider : Provider)
    (summary : Summary) (xs : List Exchange) (d : Cloud) : Prop :=
  ∃ shipper secrets, summary = j.report provider shipper secrets ∧
    Delivered j owner provider shipper secrets xs d ∧
    ∀ first old, c.Ships j owner provider first old → first = shipper ∧ old = secrets ∧
      d = (c.rotated m shipper.id).putSecrets shipper.id secrets ∧
      kinds xs = rotationKinds provider secrets (c.machines shipper.name).length

theorem Cloud.Owns.of_apps {owner name : String} (h : c.Owns owner name) (happs : d.apps = c.apps) :
    d.Owns owner name := by
  unfold Cloud.Owns Cloud.app?
  rw [happs]
  exact h

/-- Once the provider is chosen, a setup that nothing disturbs delivers. -/
theorem succeeds_chosen (hm : m.IsSound) (hc : c.IsSound) {j : Job} {provider : Provider}
    (target : App)
    {lookup : Exchange} (hlookup : lookup.1.kind = .app) (hname : target.name = j.appName)
    (howns : c.Owns target.organization.id j.appName) (hoffer : provider ∈ Provider.catalog)
    (haccepted : j.answers.Accepted provider) :
    Succeeds m c (ChosenCourse j.image target provider j.answers) fun summary xs d =>
      Restores m c j target.organization.id provider summary (lookup :: xs) d := by
  refine (succeeds_provider hm hc target hoffer haccepted).andThen
    fun secrets xs₁ c₁ hcourse₁ hheard₁ ⟨hprovides, happs₁, hsame₁⟩ => ?_
  rw [hname] at hprovides hsame₁
  have hc₁ := hheard₁.isSound hm hc hcourse₁.moves.areNamed
  refine (succeeds_shipper hm hc₁ (howns.of_apps happs₁)).andThen
    fun _ xs₂ c₂ hcourse₂ hheard₂ ⟨⟨shipper, others, hlisted, hseen⟩, howns₂, hsame₂⟩ => ?_
  subst hseen
  have hc₂ := hheard₂.isSound hm hc₁ hcourse₂.moves.areNamed
  have hblank : Text.isBlankText shipper.name = false :=
    hc₂.shippers _ shipper (hlisted ▸ List.mem_cons_self)
  refine (succeeds_machine hm shipper.seen hblank (hc₂.machines _)).andThen
    fun _ xs₃ c₃ hcourse₃ hheard₃ ⟨hmachines, happs₃, hsame₃⟩ => ?_
  have hc₃ := hheard₃.isSound hm hc₂ hcourse₃.moves.areNamed
  refine (succeeds_deploy hm shipper.seen hblank (hc₃.machines _)).andThen
    fun _ xs₄ c₄ _ _ ⟨hdeployed, htoken, hcalls⟩ => .plain ?_
  subst hdeployed
  have hkept₂ := hheard₂.kept hcourse₂.moves.isLicensed
  have hkept₃ := hheard₃.kept hcourse₃.moves.isLicensed
  have hsome : c₂.roleApps shipperRole target.organization.id ≠ [] := by simp [hlisted]
  have hships : c₃.Ships j target.organization.id provider shipper secrets :=
    { known := howns₂.of_apps happs₃
      listed := by rw [hkept₃.shippers _ hsome, hlisted]; rfl
      machines := hmachines
      provided := hkept₃.provides (hkept₂.provides hprovides) }
  have hsplit : lookup :: (xs₁ ++ (xs₂ ++ (xs₃ ++ (xs₄ ++ [])))) =
      (lookup :: (xs₁ ++ (xs₂ ++ xs₃))) ++ xs₄ := by simp
  refine ⟨shipper, secrets, ?_, ?_, fun first old hfirst => ?_⟩
  · unfold summaryOf Job.report
    rw [hname]
    rfl
  · rw [hsplit]
    exact delivered_of_deployed hm _ hoffer hships htoken hcalls
  -- what is there already is found step by step
  obtain ⟨rfl, hkinds₁⟩ := hsame₁ ⟨old, hfirst.provided⟩
  have hhead := hfirst.listed
  obtain ⟨rfl, hkinds₂⟩ := hsame₂ (by
    intro hnone
    rw [hnone] at hhead
    cases hhead)
  rw [hlisted] at hhead
  cases hhead
  obtain ⟨rfl, hkinds₃⟩ := hsame₃ hfirst.machines
  refine ⟨rfl, hprovides.unique hfirst.provided, rfl, ?_⟩
  have hkinds₄ : kinds xs₄ = _ := (kinds_eq_map xs₄).trans (congrArg (List.map Call.kind) hcalls)
  rw [kinds_deployCalls] at hkinds₄
  simp only [kinds_cons, kinds_append, List.append_nil, hlookup, hkinds₁, hkinds₂, hkinds₃,
    hkinds₄]
  rfl

/-- **A setup that nothing disturbs delivers**, from every sound cloud that has the app. -/
theorem succeeds_ship (hm : m.IsSound) (hc : c.IsSound) {j : Job} {owner : String}
    {provider : Provider}
    (howns : c.Owns owner j.appName) (hselect : j.answers.select Provider.catalog = .ok provider)
    (haccepted : j.answers.Accepted provider) :
    Succeeds m c (ShipCourse j.image j.appName j.answers) fun summary xs d =>
      Restores m c j owner provider summary xs d := by
  have hoffer := mem_of_select hselect
  obtain ⟨target, htarget, rfl⟩ := id howns
  have hname : target.name = j.appName := by simpa using List.find?_some htarget
  have happ : Succeeds m c (Once (.query (.app j.appName)) (Platform.app j.appName))
      fun value xs d =>
      value = target.seen ∧ c = d ∧ ∃ lookup, xs = [lookup] ∧ lookup.1.kind = .app :=
    .once (Cloud.given_app htarget) ⟨rfl, rfl, _, rfl, rfl⟩
  -- the look-up of the app leaves the cloud as it is, and so does the choice
  refine happ.andThen ?_
  rintro _ _ _ - - ⟨rfl, rfl, lookup, rfl, hlookup⟩
  have hchoice : Succeeds m c (Plain ((j.answers.select Provider.catalog).mapError .answers))
      fun value xs d => provider = value ∧ c = d ∧ xs = [] := by
    rw [hselect]
    exact .plain ⟨rfl, rfl, rfl⟩
  refine hchoice.andThen ?_
  rintro _ _ _ - - ⟨rfl, rfl, rfl⟩
  exact succeeds_chosen hm hc target.seen hlookup hname howns hoffer haccepted

/-! ## After every history

  A history leaves a sound cloud that has the app, so the last statement applies to what is left. -/

/-- The cloud after a history of setups, of whose requests and replies some were lost. -/
def Cloud.afterHistory (m : Minting) (start : Cloud) (fates : List Fate) (jobs : List Job) :
    Cloud :=
  (runEach (Wire.respond m) (jobs.map Job.procedure) ⟨start, fates, []⟩).2.cloud

/-- The setup against a cloud, with nothing lost. -/
def Job.undisturbed (j : Job) (m : Minting) (c : Cloud) : Outcome Cloud Summary :=
  j.procedure.run (Cloud.answer m) c

/-- The setup repaired the cloud, and the same setup again only rotated the token: it made the
    look-ups, one token and one restart for each machine, and the cloud it left has a fresh token
    where the first one left one, and is otherwise the same. -/
structure Recovered (m : Minting) (j : Job) (owner : String) (provider : Provider) (shipper : App)
    (secrets : List Secret) (first again : Outcome Cloud Summary) : Prop where
  result : first.result = .ok (j.report provider shipper secrets)
  delivered : Delivered j owner provider shipper secrets first.exchanges first.state
  token : (kinds first.exchanges).count .token = 1
  resultAgain : again.result = first.result
  deliveredAgain : Delivered j owner provider shipper secrets again.exchanges again.state
  kindsAgain : kinds again.exchanges =
    rotationKinds provider secrets (first.state.machines shipper.name).length
  stateAgain : again.state = first.state.rotated m shipper.id

/-- **After every history of setups, one that nothing disturbs repairs everything**, and the same
    one again only rotates the token. -/
theorem recovers_after_history {m : Minting} {start : Cloud} {fates : List Fate} {jobs : List Job}
    {j : Job} {target : App} {provider : Provider} (hm : m.IsSound) (hstart : start.IsSound)
    (htarget : (start.afterHistory m fates jobs).app? j.appName = some target)
    (hselect : j.answers.select Provider.catalog = .ok provider)
    (haccepted : j.answers.Accepted provider) :
    let first := j.undisturbed m (start.afterHistory m fates jobs)
    let again := j.undisturbed m first.state
    ∃ shipper secrets,
      Recovered m j target.organization.id provider shipper secrets first again := by
  intro first again
  have hsound : (start.afterHistory m fates jobs).IsSound :=
    isSound_after_history (w := ⟨start, fates, []⟩) hm hstart jobs
  have hcourse := shipCourse_of_run (Cloud.answer m) j.image j.appName j.answers
    (start.afterHistory m fates jobs)
  have hheard : Heard m (start.afterHistory m fates jobs) first.exchanges first.state :=
    served_run _ _ _
  obtain ⟨summary, hresult, shipper, secrets, rfl, hdelivered, -⟩ :=
    succeeds_ship hm hsound ⟨target, htarget, rfl⟩ hselect haccepted _ _ _ hcourse hheard
  -- the second run starts from a cloud that ships already
  have hships := hdelivered.ships
  have hcourse₂ := shipCourse_of_run (Cloud.answer m) j.image j.appName j.answers first.state
  have hheard₂ : Heard m first.state again.exchanges again.state := served_run _ _ _
  have hsound₂ := hheard.isSound hm hsound hcourse.moves.areNamed
  obtain ⟨summary, hresult₂, second, others, rfl, hdelivered₂, hrotated⟩ :=
    succeeds_ship hm hsound₂ hships.known hselect haccepted _ _ _ hcourse₂ hheard₂
  obtain ⟨rfl, rfl, hstate, hkinds⟩ := hrotated shipper secrets hships
  have hkeys := hships.provided.keys (mem_of_select hselect)
  have hwhole := hcourse
  rw [hresult] at hwhole
  obtain ⟨machines, -, hword⟩ := hwhole.restarted.lastListed
  exact ⟨shipper, secrets,
    { result := hresult
      delivered := hdelivered
      token := count_token _ hword
      resultAgain := hresult₂.trans hresult.symm
      deliveredAgain := hdelivered₂
      kindsAgain := hkinds
      stateAgain := hstate.trans (Cloud.putSecrets_rotated hkeys.2 hdelivered.written) }⟩

/-! ## One history, and one cloud beyond repair

  A history in which a reply was lost after its call was applied; and a cloud whose shipper has a
  blank name, which no setup can repair. -/

namespace Sample

/-- Ids and tokens by number. -/
def minting : Minting where
  appId n := "app_" ++ Decimal.intText n
  addOnId n := "addon_" ++ Decimal.intText n
  machineId n := "m_" ++ Decimal.intText n
  accessToken n := "nats-token-" ++ Decimal.intText n
  addOnToken name := "addon-token-" ++ name
  region := "ord"

def owner : Organization := ⟨"org_acme", "acme", "acme"⟩

def target : App := ⟨"app_web", "acme-web", owner⟩

/-- A cloud with one app and these shippers of its organization. -/
def cloud (shippers : List App) : Cloud where
  apps := target :: shippers
  roleApps := fun role organizationId =>
    if role = shipperRole ∧ organizationId = owner.id then shippers else []
  addOns := fun _ => none
  machines := fun _ => []
  secrets := fun _ _ => none
  made := 0

def logtail : Provider := .automatic "logtail" "Logtail" "LOGTAIL_TOKEN"

def datadog : Provider := .manual "datadog" "Datadog" ["DATADOG_API_KEY"] ["DATADOG_SITE"]

def logtailJob : Job := ⟨defaultImage, "acme-web", .of (some "logtail") []⟩

def datadogJob : Job := ⟨defaultImage, "acme-web",
    .of (some "datadog") [("DATADOG_API_KEY", "key")]⟩

/-- The add-on is created, and then the shipper, but the reply to its creation is lost. -/
def fates : List Fate := [.answered, .answered, .answered, .answered, .replyLost .timeout]

theorem isSound_minting : minting.IsSound := by
  constructor
  · intro n
    simp [minting, String.append_eq_empty_iff]
  · intro n
    simp [minting, String.append_eq_empty_iff]
  · intro name
    simp [minting, String.append_eq_empty_iff]
  · decide

theorem isSound_cloud : (cloud []).IsSound := by
  refine ⟨fun organizationId a ha => ?_, nofun, nofun⟩
  simp [cloud] at ha

end Sample

open Sample in
/-- A setup whose request for a shipper was applied, but not answered, leaves a shipper without a
    machine, and is repaired. -/
theorem recovers_after_lost_reply :
    let c := (Sample.cloud []).afterHistory minting fates [logtailJob]
    let first := logtailJob.undisturbed minting c
    (c.roleApps shipperRole owner.id).length = 1 ∧ c.machines "acme-auto-log-shipper" = [] ∧
      ∃ shipper secrets, Recovered minting logtailJob owner.id logtail shipper secrets first
        (logtailJob.undisturbed minting first.state) := by
  have htarget : ((Sample.cloud []).afterHistory minting fates [logtailJob]).app?
    logtailJob.appName =
      some target := by decide +kernel
  have hselect : logtailJob.answers.select Provider.catalog = .ok logtail := by decide +kernel
  refine ⟨by decide +kernel, by decide +kernel, ?_⟩
  exact recovers_after_history isSound_minting isSound_cloud htarget hselect nofun

/-- Nothing in the cloud has an empty id, name or token. -/
structure Cloud.IsFilled (c : Cloud) : Prop where
  apps : ∀ a ∈ c.apps, a.id ≠ "" ∧ a.name ≠ "" ∧ a.organization.id ≠ ""
  shippers : ∀ role owner, ∀ a ∈ c.roleApps role owner, a.id ≠ "" ∧ a.name ≠ "" ∧
    a.organization.id ≠ ""
  addOns : ∀ name a, c.addOns name = some a → a.name ≠ "" ∧ a.token ≠ ""
  machines : ∀ app, ∀ machine ∈ c.machines app, machine.id ≠ ""

open Sample in
/-- **Names that are not empty are not enough**: a shipper with a blank name stops every setup,
    since the machines of such an app cannot be asked about. -/
theorem blank_shipper_stops :
    let c := Sample.cloud [⟨"app_s", " ", owner⟩]
    minting.IsSound ∧ c.IsFilled ∧ c.app? datadogJob.appName = some target ∧
      datadogJob.answers.select Provider.catalog = .ok datadog ∧
        datadogJob.answers.Accepted datadog ∧
      (datadogJob.undisturbed minting c).result = .error (.argument .blankApp) := by
  intro c
  have hfilled : c.IsFilled := by
    refine ⟨by decide +kernel, fun role owner a ha => ?_, nofun, nofun⟩
    have hshipper : a ∈ ([⟨"app_s", " ", Sample.owner⟩] : List App) := by
      change a ∈ (if _ then _ else _) at ha
      split at ha
      · exact ha
      · cases ha
    rw [List.mem_singleton.mp hshipper]
    decide
  refine ⟨isSound_minting, hfilled, by decide +kernel, by decide +kernel,
    fun _ => ?_, by decide +kernel⟩
  exact ⟨[⟨"DATADOG_API_KEY", "key"⟩], by decide +kernel⟩

end LogDrain
