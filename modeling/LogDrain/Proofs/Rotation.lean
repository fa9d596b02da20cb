/-
  ROTATING THE TOKEN: what deploying does to a cloud that answers.

  A fresh token is written, the provider's secrets are written over what is there, and every machine
  is restarted (`succeeds_deploy`).  Writing secrets that are there already changes nothing, also
  when the token was rotated in between (`Cloud.putSecrets_rotated`), because no provider writes
  under the token's key (`Cloud.Provides.keys`).

  The secrets of a cloud are functions of their keys, so writing them in turn is a row of updates,
  and two facts decide everything: a key that is not written keeps its value
  (`Cloud.writeAll_of_notMem`), and one that is written has its new value whatever it had before
  (`Cloud.writeAll_of_mem`).
-/
import LogDrain.Proofs.Collected
import LogDrain.Proofs.Undisturbed

namespace LogDrain

open Setup Procedure

variable {m : Minting} {c d : Cloud}

/-! ## Writing secrets

  Secrets are a map from keys to values, and writing is done key by key.  Two laws are all that is
  needed: a key that is not written stays, and writing what is there changes nothing. -/

/-- The cloud once these secrets were written to the app. -/
def Cloud.putSecrets (c : Cloud) (appId : String) (secrets : List Secret) : Cloud :=
  { c with secrets := Function.update c.secrets appId (Cloud.writeAll secrets (c.secrets appId)) }

/-- The cloud once a fresh token was issued and written to the app. -/
def Cloud.rotated (m : Minting) (c : Cloud) (appId : String) : Cloud :=
  { c with made := c.made + 1 }.putSecrets appId [⟨tokenKey, m.accessToken c.made⟩]

/-- The secrets of the app are written over; those of other apps are not touched. -/
@[simp] theorem Cloud.putSecrets_self (appId : String) (secrets : List Secret) :
    (c.putSecrets appId secrets).secrets appId = Cloud.writeAll secrets (c.secrets appId) :=
  Function.update_self ..

/-- Rotating sets the token's key, and leaves every other secret of the app. -/
@[simp] theorem Cloud.rotated_self (appId : String) :
    (c.rotated m appId).secrets appId =
      Function.update (c.secrets appId) tokenKey (some (m.accessToken c.made)) :=
  Function.update_self ..

section Writing

variable {secrets : List Secret} {values : String → Option String} {key : String}

/-- Secrets are written one after the other, so that of two with one key the later one stays. -/
theorem Cloud.writeAll_cons (s : Secret) :
    Cloud.writeAll (s :: secrets) values =
      Cloud.writeAll secrets (Function.update values s.key (some s.value)) :=
  rfl

/-- A key that is not written keeps its value. -/
theorem Cloud.writeAll_of_notMem (h : key ∉ secrets.map (·.key)) :
    Cloud.writeAll secrets values key = values key := by
  induction secrets generalizing values with
  | nil => rfl
  | cons s secrets ih =>
    rw [List.map_cons, List.mem_cons, not_or] at h
    rw [writeAll_cons, ih h.2, Function.update_of_ne h.1]

/-- **Every secret written is there**, if no key is written twice. -/
theorem Cloud.writeAll_of_mem (h : (secrets.map (·.key)).Nodup) {s : Secret} (hs : s ∈ secrets) :
    Cloud.writeAll secrets values s.key = some s.value := by
  induction secrets generalizing values with
  | nil => cases hs
  | cons first secrets ih =>
    rw [List.map_cons, List.nodup_cons] at h
    rw [writeAll_cons]
    rcases List.mem_cons.mp hs with rfl | hrest
    · rw [writeAll_of_notMem h.1, Function.update_self]
    · exact ih h.2 hrest

/-- Writing what is there already changes nothing. -/
theorem Cloud.writeAll_eq_self (h : ∀ s ∈ secrets, values s.key = some s.value) :
    Cloud.writeAll secrets values = values := by
  induction secrets with
  | nil => rfl
  | cons s secrets ih =>
    have hfirst : Function.update values s.key (some s.value) = values := by
      rw [← h s List.mem_cons_self, Function.update_eq_self]
    rw [writeAll_cons, hfirst]
    exact ih fun other hother => h other (List.mem_cons_of_mem _ hother)

/-- Writing what is there already changes nothing. -/
theorem Cloud.putSecrets_eq_self {appId : String}
    (h : ∀ s ∈ secrets, c.secrets appId s.key = some s.value) : c.putSecrets appId secrets = c := by
  unfold putSecrets
  rw [writeAll_eq_self h, Function.update_eq_self]

/-- **Secrets that are there stay there when the token is rotated**, so writing them again changes
    nothing. -/
theorem Cloud.putSecrets_rotated {appId : String} (hkey : tokenKey ∉ secrets.map (·.key))
    (h : ∀ s ∈ secrets, c.secrets appId s.key = some s.value) :
    (c.rotated m appId).putSecrets appId secrets = c.rotated m appId := by
  refine putSecrets_eq_self fun s hs => ?_
  have hne : s.key ≠ tokenKey := fun heq => hkey (heq ▸ List.mem_map_of_mem hs)
  rw [rotated_self, Function.update_of_ne hne]
  exact h s hs

/-- The keys of a provider's secrets are distinct, and none is that of the token. -/
theorem Cloud.Provides.keys {appName : String} {provider : Provider} {answers : Answers}
    (h : c.Provides appName provider answers secrets) (hoffer : provider ∈ Provider.catalog) :
    (secrets.map (·.key)).Nodup ∧ tokenKey ∉ secrets.map (·.key) := by
  by_cases hauto : provider.auto = true
  · rw [Cloud.provides_of_auto hauto] at h
    obtain ⟨addOn, -, rfl⟩ := h
    exact keys_of_automatic hoffer addOn.token
  · rw [Cloud.provides_of_manual hauto] at h
    exact keys_of_collect hoffer h

end Writing

/-! ## Deploying

  The parts of a deployment one by one, each with the cloud that it leaves and the calls that it
  makes; `succeeds_deploy` puts them in a row. -/

/-- The restart of a machine of an app. -/
def restartCall (app : String) (machine : Machine) : Call := .machines app (.restart machine.id)

/-- **Every machine is restarted**, once and in order; a restart changes nothing in the cloud. -/
theorem succeeds_restart {app : String} {machines : List Machine}
    (hids : ∀ machine ∈ machines, machine.id ≠ "") :
    Succeeds m c (RestartCourse app true machines) fun _ xs d =>
      d = c ∧ xs.map Prod.fst = machines.map (restartCall app) := by
  -- on the machines that are left to restart; the cloud stays the same along the way
  intro xs r d hcourse hheard
  induction hcourse with
  | nil => exact ⟨(), rfl, heard_nil.mp hheard, rfl⟩
  | unnamed hid => exact absurd hid (hids _ List.mem_cons_self)
  | refused hid hrefused =>
    obtain ⟨rfl, -⟩ := heard_cons.mp hheard
    cases (Cloud.given_restart hid).symm.trans hrefused
  | unready _ hskip => cases hskip
  | skipped _ _ _ _ ih =>
    obtain ⟨-, hrest⟩ := heard_cons.mp hheard
    obtain ⟨value, hr, hcloud, hcalls⟩ :=
      ih (fun machine hmem => hids machine (List.mem_cons_of_mem _ hmem)) hrest
    exact ⟨value, hr, hcloud, congrArg (List.cons _) hcalls⟩
  | waited _ hskip => cases hskip

/-- **The machines of the shipper are listed and restarted**, whoever launched them. -/
theorem succeeds_redeploy {shipper : App} (hname : Text.isBlankText shipper.name = false)
    (hids : ∀ machine ∈ c.machines shipper.name, machine.id ≠ "") :
    Succeeds m c (RedeployCourse shipper true) fun _ xs d =>
      d = c ∧ xs.map Prod.fst =
        listCall shipper :: (c.machines shipper.name).map (restartCall shipper.name) := by
  have hlist := Cloud.given_list (m := m) hids
  intro xs r d hcourse hheard
  cases hcourse with
  | blank hblank =>
    rw [hname] at hblank
    cases hblank
  | unlisted _ hlisted =>
    obtain ⟨rfl, -⟩ := heard_cons.mp hheard
    cases hlist.symm.trans hlisted
  | listed _ hlisted hrestart =>
    obtain ⟨rfl, hrest⟩ := heard_cons.mp hheard
    cases hlist.symm.trans hlisted
    obtain ⟨value, rfl, hcloud, hcalls⟩ := succeeds_restart hids _ _ _ hrestart hrest
    exact ⟨_, rfl, hcloud, congrArg (List.cons _) hcalls⟩

/-- The calls of a deployment: the token is issued and written alone, the secrets are written if
    there are any, and then the machines are listed and restarted. -/
def deployCalls (m : Minting) (c : Cloud) (shipper : App) (secrets : List Secret) : List Call :=
  [tokenCall shipper, secretsCall shipper [⟨tokenKey, m.accessToken c.made⟩]] ++
    (if secrets = [] then [] else [secretsCall shipper secrets]) ++
    listCall shipper :: (c.machines shipper.name).map (restartCall shipper.name)

/-- **The token is rotated**: one is issued, and written over the one before. -/
theorem succeeds_credential (hm : m.IsSound) (shipper : App) :
    Succeeds m c (CredentialCourse shipper) fun _ xs d =>
      d = c.rotated m shipper.id ∧ (tokenCall shipper, c.reply m (tokenCall shipper)) ∈ xs ∧
      xs.map Prod.fst = [tokenCall shipper,
        secretsCall shipper [⟨tokenKey, m.accessToken c.made⟩]] := by
  have hissue : Succeeds m c (Once (tokenCall shipper) (issueToken shipper)) fun token xs d =>
      token = m.accessToken c.made ∧ d = { c with made := c.made + 1 } ∧
      xs = [(tokenCall shipper, c.reply m (tokenCall shipper))] :=
    .once (Cloud.given_createToken (hm.accessToken _)) ⟨rfl, rfl, rfl⟩
  refine hissue.andThen ?_
  rintro token ys d - - ⟨rfl, rfl, rfl⟩
  exact .once (Cloud.given_setSecrets (List.cons_ne_nil _ _)) ⟨rfl, List.mem_cons_self, rfl⟩

/-- The provider's secrets are written over what is there; without any, nothing is asked. -/
theorem succeeds_secrets (shipper : App) (secrets : List Secret) :
    Succeeds m c (SecretsCourse shipper secrets) fun _ xs d =>
      d = c.putSecrets shipper.id secrets ∧
      xs.map Prod.fst = if secrets = [] then [] else [secretsCall shipper secrets] := by
  unfold SecretsCourse
  by_cases hnone : secrets = []
  · subst hnone
    refine .plain ⟨?_, rfl⟩
    show c = { c with secrets := Function.update c.secrets shipper.id (c.secrets shipper.id) }
    rw [Function.update_eq_self]
  · simp only [if_neg hnone]
    exact .once (Cloud.given_setSecrets hnone) ⟨rfl, rfl⟩

/-- **Deploying** rotates the token, writes the secrets, restarts every machine, and does nothing
    else. -/
theorem succeeds_deploy (hm : m.IsSound) (shipper : App) {secrets : List Secret}
    (hname : Text.isBlankText shipper.name = false)
    (hids : ∀ machine ∈ c.machines shipper.name, machine.id ≠ "") :
    Succeeds m c (DeployCourse shipper secrets) fun _ xs d =>
      d = (c.rotated m shipper.id).putSecrets shipper.id secrets ∧
      (tokenCall shipper, c.reply m (tokenCall shipper)) ∈ xs ∧
      xs.map Prod.fst = deployCalls m c shipper secrets := by
  refine (succeeds_credential hm shipper).andThen fun _ xs d _ _ ⟨hd, htoken, hcredential⟩ => ?_
  subst hd
  refine (succeeds_secrets shipper secrets).andThen fun _ ys d _ _ ⟨hd, hwritten⟩ => ?_
  subst hd
  intro zs r e hcourse hheard
  have hmachines : ((c.rotated m shipper.id).putSecrets shipper.id secrets).machines = c.machines :=
    rfl
  obtain ⟨value, hr, he, hrestarted⟩ :=
    succeeds_redeploy hname (hmachines ▸ hids) _ _ _ hcourse hheard
  refine ⟨value, hr, he, List.mem_append_left _ htoken, ?_⟩
  rw [List.map_append, List.map_append, hcredential, hwritten, hrestarted, ← List.append_assoc]
  rfl

end LogDrain
