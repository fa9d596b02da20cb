/-
  CONFINEMENT: which secrets a setup can write to a shipper.

  Whoever asks for a setup gives the choice of a provider and any answers, and the remote side
  replies as it likes.  Still, in every run, whether it ends well or not:

    1. the key of the token is written by the first writing of secrets only, right after the token
       was issued, and with the token that was issued (`Confined.token`);
    2. every other secret is the provider's: a declared variable with the value answered, which is
       not blank, or the one secret of an automatic provider (`Confined.others`);
    3. no key is written twice (`Confined.once`);
    4. what else is answered for an automatic provider makes no difference to the run.

  The first three are read off the deployment (`Deployment.writes`): preparing writes nothing, the
  token is written alone, and the provider's secrets are apart from it (`KeysApart`).  The last one
  holds of the procedure already (`ship_of_auto`).
-/
import LogDrain.Proofs.Collected
import LogDrain.Proofs.Origin
import LogDrain.Proofs.Path
import LogDrain.Proofs.Stage

namespace LogDrain

/-- The secrets that a call writes. -/
def Call.secrets : Call → List Secret
  | .query (.setSecrets _ secrets) => secrets
  | _ => []

namespace Setup

open Procedure

/-! ## What may be written

  What a run writes is read off its calls, in their order; and what it may write is said of the
  answers and the provider. -/

/-- The secrets written along the exchanges, in order. -/
def writings (xs : List Exchange) : List Secret := xs.flatMap fun x => x.1.secrets

/-- The secret may be written for the provider: it is under the key that an automatic provider has
    for its token, or is a declared variable of any other one, as it was answered and not blank. -/
def Permitted (answers : Answers) (provider : Provider) (secret : Secret) : Prop :=
  if provider.auto then provider.tokenSecret = some secret.key
  else secret.key ∈ provider.allVars ∧ answers.values.lookup secret.key = some secret.value ∧
    Text.isBlankText secret.value = false

/-- The exchanges write the token that they were issued, the provider's secrets, and nothing
    twice. -/
structure Confined (answers : Answers) (xs : List Exchange) : Prop where
  token : ∀ s ∈ writings xs, s.key = "NATS_TOKEN" → ∃ before call issue appId wrote after,
    xs = before ++ (call, issue) :: (.query (.setSecrets appId [s]), wrote) :: after ∧
    (∀ x ∈ before, x.1.kind ≠ .secrets) ∧ call.kind = .token ∧ GivesToken issue s.value
  others : ∀ s ∈ writings xs, s.key ≠ "NATS_TOKEN" →
    ∃ provider, answers.select Provider.catalog = .ok provider ∧ Permitted answers provider s
  once : ((writings xs).map (·.key)).Nodup

/-- What two runs write, one writes and then the other. -/
@[simp] theorem writings_append (xs ys : List Exchange) :
    writings (xs ++ ys) = writings xs ++ writings ys :=
  List.flatMap_append

/-- Secrets are written by calls that deploy, and by no others. -/
theorem secrets_of_not_deploys {call : Call} (h : ¬ call.Deploys) :
    call.secrets = [] ∧ call.kind ≠ .secrets := by
  unfold Call.Deploys at h
  cases call with
  | machines app call => cases call <;> exact ⟨rfl, nofun⟩
  | query q =>
    cases q with
    | setSecrets => exact absurd trivial h
    | _ => exact ⟨rfl, nofun⟩

/-- Where nothing is deployed, nothing is written. -/
theorem writings_of_not_deploys {xs : List Exchange} (h : ∀ x ∈ xs, ¬ x.1.Deploys) :
    writings xs = [] :=
  List.flatMap_eq_nil_iff.mpr fun x hx => (secrets_of_not_deploys (h x hx)).1

/-! ## What a deployment writes

  At most two calls of a deployment write: the token by itself, and the provider's secrets.
  Everything else writes nothing. -/

variable {shipper : App} {secrets : List Secret} {xs : List Exchange}

/-- The provider's secrets are written all at once, or there are none. -/
theorem SecretsCourse.writings_eq {r : Except Fault Unit} (h : SecretsCourse shipper secrets xs r) :
    writings xs = secrets := by
  unfold SecretsCourse at h
  split at h
  · rename_i hnone
    rw [h.eq.1, hnone]
    rfl
  · obtain ⟨reply, rfl, -⟩ := h.exists_reply
    exact List.append_nil _

theorem RestartCourse.writings_eq {app : String} {skip : Bool} {machines : List Machine}
    {r : Except Fault Unit} (h : RestartCourse app skip machines xs r) : writings xs = [] := by
  induction h with
  | nil | unnamed | refused | unready => rfl
  | skipped _ _ _ _ ih => exact ih
  | waited _ _ _ _ _ ih => exact ih

/-- A redeployment writes nothing: it lists and restarts. -/
theorem RedeployCourse.writings_eq {target : App} {skip : Bool} {r : Except Fault Nat}
    (h : RedeployCourse target skip xs r) : writings xs = [] := by
  cases h with
  | blank | unlisted => rfl
  | listed _ _ hrestart => exact hrestart.writings_eq

/-- **A deployment writes** nothing, or the token it was issued at once and alone, and after it at
    most the secrets of the plan. -/
theorem Deployment.writes {r : Except Fault Nat} (h : Deployment shipper secrets xs r) :
    writings xs = [] ∨ ∃ issue token wrote rest,
      xs = (tokenCall shipper, issue) :: (secretsCall shipper [⟨tokenKey, token⟩], wrote) :: rest ∧
      GivesToken issue token ∧ (writings rest = [] ∨ writings rest = secrets) := by
  cases h with
  | untold => exact Or.inl rfl
  | unwritten hissue =>
    exact Or.inr ⟨_, _, _, [], rfl, Platform.given_createToken_iff.mp hissue, Or.inl rfl⟩
  | unprovided hissue hprovided =>
    exact Or.inr ⟨_, _, _, _, rfl, Platform.given_createToken_iff.mp hissue,
      Or.inr hprovided.writings_eq⟩
  | written hissue hprovided hredeploy =>
    refine Or.inr ⟨_, _, _, _, rfl, Platform.given_createToken_iff.mp hissue, Or.inr ?_⟩
    rw [writings_append, hprovided.writings_eq, hredeploy.writings_eq, List.append_nil]

/-! ## The secrets of a plan

  Where the provider's secrets come from, and that no key is among them twice.  Of the answers for
  an automatic provider nothing is used, which is the last of the four statements already. -/

variable {answers : Answers}

/-- **What a setup gets for its provider is what it may write**: the one secret of an automatic
    provider, or declared variables with their answers. -/
theorem ProviderCourse.permitted {target : App} {provider : Provider}
    (h : ProviderCourse target provider answers xs (.ok secrets)) :
    ∀ s ∈ secrets, Permitted answers provider s := by
  unfold ProviderCourse at h
  intro s hs
  unfold Permitted
  split at h
  · rename_i hauto
    rw [if_pos hauto]
    obtain ⟨token, _, _, _, _, hplain⟩ := Then.of_ok h
    cases hplain.eq.2
    obtain ⟨key, hkey, rfl⟩ := List.mem_map.mp hs
    exact Option.mem_toList.mp hkey
  · rename_i hauto
    rw [if_neg hauto]
    exact Answers.answered_of_collect (mapError_eq_ok.mp h.eq.2.symm) s hs

/-- The keys of a provider of the catalog are apart from each other and from the token's. -/
theorem ProviderCourse.keysApart {target : App} {provider : Provider}
    (h : ProviderCourse target provider answers xs (.ok secrets))
    (hoffer : provider ∈ Provider.catalog) : KeysApart secrets := by
  unfold ProviderCourse at h
  split at h
  · obtain ⟨token, _, _, _, _, hplain⟩ := Then.of_ok h
    cases hplain.eq.2
    exact keys_of_automatic hoffer token
  · exact keys_of_collect hoffer (mapError_eq_ok.mp h.eq.2.symm)

/-! ## The whole -/

theorem Confined.of_nothing (h : writings xs = []) : Confined answers xs := by
  refine ⟨?_, ?_, ?_⟩
  · rw [h]
    exact nofun
  · rw [h]
    exact nofun
  · rw [h]
    exact List.nodup_nil

/-- What is prepared and then deployed is confined. -/
theorem Confined.of_deployed {provider : Provider} {before : List Exchange} {r : Except Fault Nat}
    (hbefore : ∀ x ∈ before, ¬ x.1.Deploys)
    (hselect : answers.select Provider.catalog = .ok provider)
    (hpermitted : ∀ s ∈ secrets, Permitted answers provider s) (hkeys : KeysApart secrets)
    (h : Deployment shipper secrets xs r) : Confined answers (before ++ xs) := by
  have hnothing := writings_of_not_deploys hbefore
  rcases h.writes with hnone | ⟨issue, token, wrote, rest, rfl, htoken, hrest⟩
  · exact .of_nothing (by rw [writings_append, hnothing, hnone]; rfl)
  -- the token comes first, and what follows is among the secrets of the plan
  have hwritten : writings (before ++ (tokenCall shipper, issue) ::
      (secretsCall shipper [⟨tokenKey, token⟩], wrote) :: rest) =
        ⟨tokenKey, token⟩ :: writings rest := by
    rw [writings_append, hnothing]
    rfl
  have hsub : (writings rest).Sublist secrets := by
    rcases hrest with hrest | hrest
    · rw [hrest]
      exact List.nil_sublist _
    · rw [hrest]
  have hkeysSub := hsub.map (·.key)
  refine ⟨fun s hs hkey => ?_, fun s hs hkey => ?_, ?_⟩
  · rw [hwritten] at hs
    rcases List.mem_cons.mp hs with rfl | hs
    · exact ⟨before, _, issue, _, wrote, rest, rfl,
        fun x hx => (secrets_of_not_deploys (hbefore x hx)).2, rfl, htoken⟩
    · have hmem : s.key ∈ secrets.map (·.key) := hkeysSub.subset (List.mem_map_of_mem hs)
      rw [hkey] at hmem
      exact absurd hmem hkeys.2
  · rw [hwritten] at hs
    rcases List.mem_cons.mp hs with rfl | hs
    · exact absurd rfl hkey
    · exact ⟨provider, hselect, hpermitted s (hsub.subset hs)⟩
  · rw [hwritten, List.map_cons, List.nodup_cons]
    exact ⟨fun hmem => hkeys.2 (hkeysSub.subset hmem), hkeys.1.sublist hkeysSub⟩

/-- For an automatic provider, the answers other than the choice make no difference. -/
theorem ship_of_auto (image appName : String) {other : Answers} {provider : Provider}
    (hselect : answers.select Provider.catalog = .ok provider) (hauto : provider.auto = true)
    (hchoice : other.choice = answers.choice) :
    ship image appName other = ship image appName answers := by
  have hother : other.select Provider.catalog = answers.select Provider.catalog := by
    unfold Answers.select
    rw [hchoice]
  unfold ship
  rw [hother, hselect]
  -- the answers are looked at once more, for the secrets of a provider that is not automatic
  have hsecrets : ∀ target, providerSecrets target provider other =
      providerSecrets target provider answers := by
    intro target
    unfold providerSecrets
    rw [if_pos hauto, if_pos hauto]
  refine congrArg (Procedure.bind (Platform.app appName)) (funext fun target => ?_)
  show Procedure.bind (.done provider) _ = Procedure.bind (.done provider) _
  simp only [done_bind, hsecrets]

/-- **A setup writes the token and the provider's secrets**, each once, whoever replies; and of the
    answers for an automatic provider only the choice counts. -/
theorem ship_confined {σ : Type} (respond : σ → Call → Reply × σ) (image appName : String)
    (answers : Answers) (s : σ) :
    Confined answers ((ship image appName answers).run respond s).exchanges ∧
      ∀ provider other, answers.select Provider.catalog = .ok provider → provider.auto = true →
        other.choice = answers.choice →
        (ship image appName other).run respond s = (ship image appName answers).run respond s := by
  refine ⟨?_, fun provider other hselect hauto hchoice => ?_⟩
  · have hstages := (shipCourse_of_run respond image appName answers s).stages
    generalize ((ship image appName answers).run respond s).exchanges = xs at hstages ⊢
    generalize ((ship image appName answers).run respond s).result = r at hstages
    cases hstages with
    | stopped hbefore => exact .of_nothing (writings_of_not_deploys hbefore)
    | deployed hprepared hdeployed =>
      have hbefore := hprepared.not_deploys
      obtain ⟨-, hselect, hprovided, -, -⟩ := hprepared
      exact .of_deployed hbefore hselect hprovided.permitted
        (hprovided.keysApart (mem_of_select hselect)) hdeployed.deployment
  · rw [ship_of_auto image appName hselect hauto hchoice]

open Foreign in
/-- In the setup with two organizations, a value answered for the token's own key is passed over. -/
theorem confined_two_organizations :
    Confined (.of (some "logtail") [])
      ((ship defaultImage "acme-web" (.of (some "logtail") [])).run nextReply replies).exchanges ∧
    (ship defaultImage "acme-web" (.of (some "logtail") [("NATS_TOKEN", "mine")])).run nextReply
      replies =
      (ship defaultImage "acme-web" (.of (some "logtail") [])).run nextReply replies := by
  obtain ⟨hconfined, hsame⟩ :=
    ship_confined nextReply defaultImage "acme-web" (.of (some "logtail") []) replies
  have hselect : (Answers.of (some "logtail") []).select Provider.catalog =
      .ok (.automatic "logtail" "Logtail" "LOGTAIL_TOKEN") := by
    decide +kernel
  exact ⟨hconfined, hsame _ (.of (some "logtail") [("NATS_TOKEN", "mine")]) hselect rfl rfl⟩

end Setup

end LogDrain
