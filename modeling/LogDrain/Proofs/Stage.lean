/-
  THE TWO STAGES OF A SETUP: first everything is prepared, then the credential is deployed.

  Preparing looks things up and creates what is missing; it neither issues a token, nor writes a
  secret, nor restarts anything.  What it finds out is a `Plan`: the app that the setup is for, the
  provider chosen, its secrets, and the shipper.  Deploying is about the plan alone
  (`DeployCourse`).

  `ShipCourse.stages` says that a setup either stops while it prepares, or has a plan and goes on to
  deploy it.  So a statement about what is written to a shipper starts from a plan, whatever replies
  led to it; and a statement about the rest of a setup need not look at the deployment.
-/
import LogDrain.Proofs.Order

namespace LogDrain

/-- The call issues a token, writes secrets or restarts a machine. -/
def Call.Deploys : Call → Prop
  | .query (.createToken ..) | .query (.setSecrets ..) | .machines _ (.restart _) => True
  | _ => False

namespace Setup

open Procedure

variable {α β : Type}

/-! ## Taking courses apart

  Small inversions, so that a proof by cases on a course does not have to unfold what each part
  went through. -/

/-- What asks for nothing has no exchanges, and its own result. -/
theorem Plain.eq {e r : Except Fault α} {xs : List Exchange} (h : Plain e xs r) :
    xs = [] ∧ r = e := by
  obtain ⟨⟩ := h
  exact ⟨rfl, rfl⟩

/-- One call is one exchange. -/
theorem Once.exists_reply {call : Call} {p : Procedure α} {xs : List Exchange} {r : Except Fault α}
    (h : Once call p xs r) : ∃ reply, xs = [(call, reply)] ∧ p.given reply = r := by
  obtain ⟨reply⟩ := h
  exact ⟨reply, rfl, rfl⟩

/-- A course that ends well has gone through both of its parts, and both ended well. -/
theorem Then.of_ok {P : Course α} {Q : α → Course β} {xs : List Exchange} {value : β}
    (h : Then P Q xs (.ok value)) :
    ∃ first ys zs, xs = ys ++ zs ∧ P ys (.ok first) ∧ Q first zs (.ok value) := by
  generalize hr : (.ok value : Except Fault β) = r at h
  cases h with
  | stopped _ => cases hr
  | went hfirst hrest =>
    subst hr
    exact ⟨_, _, _, rfl, hfirst, hrest⟩

/-- What holds of the exchanges of both parts holds of all exchanges. -/
theorem Then.forall_mem {K : Exchange → Prop} {P : Course α} {Q : α → Course β} {xs : List Exchange}
    {r : Except Fault β} (h : Then P Q xs r) (hP : ∀ {xs r}, P xs r → ∀ x ∈ xs, K x)
    (hQ : ∀ {value xs r}, Q value xs r → ∀ x ∈ xs, K x) : ∀ x ∈ xs, K x := by
  cases h with
  | stopped hstop => exact hP hstop
  | went hfirst hrest =>
    intro x hx
    rcases List.mem_append.mp hx with hx | hx
    · exact hP hfirst x hx
    · exact hQ hrest x hx

theorem Plain.forall_mem {K : Exchange → Prop} {e r : Except Fault α} {xs : List Exchange}
    (h : Plain e xs r) : ∀ x ∈ xs, K x := by
  rw [h.eq.1]
  exact nofun

/-! ## Preparing

  No step before the deployment issues a token, writes a secret or restarts a machine.  The steps
  look things up and create what is missing. -/

theorem AddOnCourse.not_deploys {target : App} {slug : String} {xs : List Exchange}
    {r : Except Fault String} (h : AddOnCourse target slug xs r) : ∀ x ∈ xs, ¬ x.1.Deploys := by
  cases h <;> simp [addOnCall, createAddOnCall, Call.Deploys]

/-- Getting the provider's secrets deploys nothing: what is looked up or created is an add-on. -/
theorem ProviderCourse.not_deploys {target : App} {provider : Provider} {answers : Answers}
    {xs : List Exchange} {r : Except Fault (List Secret)}
    (h : ProviderCourse target provider answers xs r) : ∀ x ∈ xs, ¬ x.1.Deploys := by
  unfold ProviderCourse at h
  split at h
  · exact h.forall_mem AddOnCourse.not_deploys Plain.forall_mem
  · exact h.forall_mem

theorem MachineCourse.not_deploys {image : String} {shipper : App} {xs : List Exchange}
    {r : Except Fault Unit} (h : MachineCourse image shipper xs r) : ∀ x ∈ xs, ¬ x.1.Deploys := by
  cases h <;> simp [listCall, regionCall, launchCall, Call.Deploys]

theorem ShipperCourse.not_deploys {image : String} {organization : Organization}
    {xs : List Exchange} {r : Except Fault App} (h : ShipperCourse image organization xs r) :
    ∀ x ∈ xs, ¬ x.1.Deploys := by
  cases h with
  | unlisted | found | refused => simp [shippersCall, createShipperCall, Call.Deploys]
  | created _ _ hequip =>
    have hrest := hequip.forall_mem MachineCourse.not_deploys Plain.forall_mem
    intro x hx
    rcases List.mem_cons.mp hx with rfl | hx
    · exact id
    rcases List.mem_cons.mp hx with rfl | hx
    · exact id
    · exact hrest x hx

/-- What a setup has found out once everything is prepared. -/
structure Plan where
  target : App
  provider : Provider
  secrets : List Secret
  shipper : App

/-- What comes of the setup if the plan is deployed. -/
def Plan.summary (plan : Plan) : Summary :=
  summaryOf plan.target plan.provider plan.secrets plan.shipper

/-- The exchanges prepare the plan: the app is found, the provider chosen, its secrets are there,
    and so are the shipper and a machine of it. -/
inductive Prepared (image appName : String) (answers : Answers) (plan : Plan) : List Exchange → Prop
  | mk {reply provided shipped equipped} :
      (Platform.app appName).given reply = .ok plan.target →
      answers.select Provider.catalog = .ok plan.provider →
      ProviderCourse plan.target plan.provider answers provided (.ok plan.secrets) →
      ShipperCourse image plan.target.organization shipped (.ok plan.shipper) →
      MachineCourse image plan.shipper equipped (.ok ()) →
      Prepared image appName answers plan
        ((.query (.app appName), reply) :: (provided ++ (shipped ++ equipped)))

/-- **Preparing deploys nothing.** -/
theorem Prepared.not_deploys {image appName : String} {answers : Answers} {plan : Plan}
    {xs : List Exchange} (h : Prepared image appName answers plan xs) :
    ∀ x ∈ xs, ¬ x.1.Deploys := by
  obtain ⟨-, -, hprovided, hshipped, hequipped⟩ := h
  intro x hx
  rcases List.mem_cons.mp hx with rfl | hx
  · exact id
  rcases List.mem_append.mp hx with hx | hx
  · exact hprovided.not_deploys x hx
  rcases List.mem_append.mp hx with hx | hx
  · exact hshipped.not_deploys x hx
  · exact hequipped.not_deploys x hx

/-! ## The stages

  A plan is what the preparation has found out.  The setup either has stopped by then, or it has a
  plan, and what follows depends on the plan alone. -/

/-- What a setup goes through: it stops while it prepares, or it has a plan and deploys it. -/
inductive Staged (image appName : String) (answers : Answers) : Course Summary
  | stopped {xs fault} : (∀ x ∈ xs, ¬ x.1.Deploys) → Staged image appName answers xs (.error fault)
  | deployed {plan before after q} : Prepared image appName answers plan before →
      DeployCourse plan.shipper plan.secrets after q →
      Staged image appName answers (before ++ after) (q.map fun _ => plan.summary)

/-- Runs in a row deploy nothing if neither does. -/
theorem not_deploys_append {xs ys : List Exchange} (hx : ∀ x ∈ xs, ¬ x.1.Deploys)
    (hy : ∀ y ∈ ys, ¬ y.1.Deploys) : ∀ x ∈ xs ++ ys, ¬ x.1.Deploys :=
  List.forall_mem_append.mpr ⟨hx, hy⟩

theorem not_deploys_app (appName : String) (reply : Reply) :
    ∀ x ∈ [((.query (.app appName), reply) : Exchange)], ¬ x.1.Deploys := by
  intro x hx
  rw [List.mem_singleton.mp hx]
  exact id

/-- **A setup has two stages.** -/
theorem ShipCourse.stages {image appName : String} {answers : Answers} {xs : List Exchange}
    {r : Except Fault Summary} (h : ShipCourse image appName answers xs r) :
    Staged image appName answers xs r := by
  -- every step that stops leaves the exchanges so far, none of which deploys anything
  cases h with
  | stopped htarget =>
    obtain ⟨reply, rfl, -⟩ := htarget.exists_reply
    exact .stopped (not_deploys_app appName reply)
  | @went _ target _ _ htarget hselect =>
  obtain ⟨reply, rfl, hfound⟩ := htarget.exists_reply
  have hasked := not_deploys_app appName reply
  cases hselect with
  | stopped hchoice =>
    rw [hchoice.eq.1]
    exact .stopped hasked
  | @went _ provider _ _ hchoice hchosen =>
  obtain ⟨rfl, hchosenBy⟩ := hchoice.eq
  have hselected : answers.select Provider.catalog = .ok provider :=
    mapError_eq_ok.mp hchosenBy.symm
  cases hchosen with
  | stopped hprovided => exact .stopped (not_deploys_append hasked hprovided.not_deploys)
  | @went provided secrets _ _ hprovided hrest =>
  have hbefore := not_deploys_append hasked hprovided.not_deploys
  cases hrest with
  | stopped hshipped =>
    refine .stopped ?_
    rw [List.nil_append, ← List.append_assoc]
    exact not_deploys_append hbefore hshipped.not_deploys
  | @went shipped shipper _ _ hshipped hrest =>
  have hbefore := not_deploys_append hbefore hshipped.not_deploys
  cases hrest with
  | stopped hequipped =>
    refine .stopped ?_
    rw [List.nil_append, ← List.append_assoc, ← List.append_assoc]
    exact not_deploys_append hbefore hequipped.not_deploys
  | @went equipped _ _ _ hequipped hrest =>
  have hplan : Prepared image appName answers ⟨target, provider, secrets, shipper⟩
      ((.query (.app appName), reply) :: (provided ++ (shipped ++ equipped))) :=
    .mk hfound hselected hprovided hshipped hequipped
  cases hrest with
  | stopped hdeployed =>
    have hstaged := Staged.deployed hplan hdeployed
    rw [List.cons_append, List.append_assoc, List.append_assoc] at hstaged
    exact hstaged
  | went hdeployed hsummary =>
    obtain ⟨rfl, rfl⟩ := hsummary.eq
    have hstaged := Staged.deployed hplan hdeployed
    rw [List.cons_append, List.append_assoc, List.append_assoc] at hstaged
    rw [List.append_nil]
    exact hstaged

/-! ## Deploying

  A deployment has four ends, by how far it came: the token, its being written, the provider's
  secrets, and the restarts.  Each is a case of its own with its exchanges. -/

/-- What deploying goes through: a token is issued, and written alone; then the provider's secrets
    are written, if there are any, and the machines are restarted. -/
inductive Deployment (shipper : App) (secrets : List Secret) : Course Nat
  | untold {issue fault} : (issueToken shipper).given issue = .error fault →
      Deployment shipper secrets [(tokenCall shipper, issue)] (.error fault)
  | unwritten {issue token wrote fault} : (issueToken shipper).given issue = .ok token →
      Deployment shipper secrets
        [(tokenCall shipper, issue), (secretsCall shipper [⟨tokenKey, token⟩], wrote)]
        (.error fault)
  | unprovided {issue token wrote provided fault} : (issueToken shipper).given issue = .ok token →
      SecretsCourse shipper secrets provided (.error fault) →
      Deployment shipper secrets
        ((tokenCall shipper, issue) :: (secretsCall shipper [⟨tokenKey, token⟩], wrote) :: provided)
        (.error fault)
  | written {issue token wrote provided restarted r} :
    (issueToken shipper).given issue = .ok token →
      SecretsCourse shipper secrets provided (.ok ()) →
      RedeployCourse shipper true restarted r →
      Deployment shipper secrets
        ((tokenCall shipper, issue) :: (secretsCall shipper [⟨tokenKey, token⟩], wrote) ::
          (provided ++ restarted)) r

/-- **The ends of a deployment, told apart by how far it came**: the token, its being written, the
    provider's secrets, the restarts. -/
theorem DeployCourse.deployment {shipper : App} {secrets : List Secret} {xs : List Exchange}
    {r : Except Fault Nat} (h : DeployCourse shipper secrets xs r) :
    Deployment shipper secrets xs r := by
  cases h with
  | stopped hcredential =>
    cases hcredential with
    | stopped hissue =>
      obtain ⟨issue, rfl, hissued⟩ := hissue.exists_reply
      exact .untold hissued
    | went hissue hwrite =>
      obtain ⟨issue, rfl, hissued⟩ := hissue.exists_reply
      obtain ⟨wrote, rfl, -⟩ := hwrite.exists_reply
      exact .unwritten hissued
  | went hcredential hrest =>
    -- the credential is done: what follows are the secrets and then the restarts
    obtain ⟨token, ys, zs, rfl, hissue, hwrite⟩ := Then.of_ok hcredential
    obtain ⟨issue, rfl, hissued⟩ := hissue.exists_reply
    obtain ⟨wrote, rfl, -⟩ := hwrite.exists_reply
    cases hrest with
    | stopped hprovided => exact .unprovided hissued hprovided
    | @went provided value restarted r hprovided hrestarted =>
      cases value
      have hdone : Deployment shipper secrets
          ((tokenCall shipper, issue) :: (secretsCall shipper [⟨tokenKey, token⟩], wrote) ::
            (provided ++ restarted)) r := .written hissued hprovided hrestarted
      exact hdone

end Setup

end LogDrain
