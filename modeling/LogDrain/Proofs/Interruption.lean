/-
  INTERRUPTED SETUPS: whatever is lost on the way, nothing is created twice.

  Setups run one after the other against a cloud, each of their requests or replies may be lost, and
  a setup that is interrupted leaves what it has done so far.  The invariant over all of it is
  `Intact`: no call was ever applied that makes something that is already there
  (`Cloud.Duplicates`), and the cloud has what it had, or has got the first of its kind.

  The invariant is kept call by call, because within one setup the last replies tell the truth about
  the cloud (`Knows`): a look-up changes nothing, so what its reply shows still holds when the next
  call arrives.  A creation is licensed by such replies (`Licensed`), and hence makes nothing twice.
  A lost reply shows nothing, and what was known before a setup is not used in it.
-/
import LogDrain.Proofs.Cloud

namespace LogDrain

open Setup Procedure

/-! ## What must not happen

  A call duplicates something if the cloud has it already.  This is said of the cloud and the call
  alone; who makes the call does not matter. -/

/-- The call makes something that is already there. -/
def Cloud.Duplicates (c : Cloud) : Call → Prop
  | .query (.createApp organizationId _ _ _) => c.roleApps shipperRole organizationId ≠ []
  | .query (.createAddOn _ name _ _) => c.addOns name ≠ none
  | .machines app (.launch _) => c.machines app ≠ []
  | _ => False

/-- The list is as it was, or it was empty and has one entry. -/
def Grown {α : Type} (old new : List α) : Prop := new = old ∨ old = [] ∧ new.length = 1

theorem Grown.refl {α : Type} (as : List α) : Grown as as := Or.inl rfl

/-- From nothing to one is one step at most: a list that has one element does not grow. -/
theorem Grown.trans {α : Type} {as bs cs : List α} (hab : Grown as bs) (hbc : Grown bs cs) :
    Grown as cs := by
  rcases hab with rfl | ⟨has, hlength⟩
  · exact hbc
  · rcases hbc with rfl | ⟨hbs, -⟩
    · exact Or.inr ⟨has, hlength⟩
    · rw [hbs] at hlength
      cases hlength

/-- What holds of a wire all the time, for the cloud at the start: no applied call made something
    twice, an organization has the shippers that it had or its first one, an add-on that was there
    is the same, and an app has the machines that it had or its first one. -/
structure Intact (start : Cloud) (w : Wire) : Prop where
  applied : ∀ e ∈ w.applied, ¬ e.1.Duplicates e.2
  shippers : ∀ organizationId, Grown (start.roleApps shipperRole organizationId)
    (w.cloud.roleApps shipperRole organizationId)
  addOns : ∀ name, start.addOns name = none ∨ w.cloud.addOns name = start.addOns name
  machines : ∀ app, Grown (start.machines app) (w.cloud.machines app)

/-! ## One call

  By cases on the call: only three kinds of calls make anything that is counted here, and for
  these it was not there, since the call duplicates nothing. -/

namespace Cloud

variable {m : Minting} {c : Cloud} {call : Call}

/-- **A call that makes nothing twice adds a shipper to an organization only if it had none.** -/
theorem grown_roleApps (h : ¬ c.Duplicates call) (organizationId : String) :
    Grown (c.roleApps shipperRole organizationId)
      ((c.apply m call).roleApps shipperRole organizationId) := by
  cases call with
  | machines app call => cases call <;> exact .refl _
  | query q =>
    cases q with
    | createApp owner name role hasMachines =>
      have hempty : c.roleApps shipperRole owner = [] := Classical.not_not.mp h
      simp only [apply]
      cases c.newApp? m owner name with
      | none => exact .refl _
      | some app =>
        cases role with
        | none => exact .refl _
        | some role =>
          by_cases hrole : shipperRole = role
          · subst hrole
            -- only the shippers of the organization that the app is created in can have grown
            by_cases howner : organizationId = owner
            · subst howner
              exact Or.inr ⟨hempty, by simp [hempty]⟩
            · exact Or.inl (by simp [howner])
          · exact Or.inl (by simp [hrole])
    | _ => exact .refl _

/-- An add-on that is there stays the one it is. -/
theorem addOns_kept (h : ¬ c.Duplicates call) (name : String) :
    c.addOns name = none ∨ (c.apply m call).addOns name = c.addOns name := by
  cases call with
  | machines app call => cases call <;> exact Or.inr rfl
  | query q =>
    cases q with
    | createApp owner app role hasMachines =>
      right
      simp only [apply]
      cases c.newApp? m owner app <;> rfl
    | createAddOn owner other appId addOnType =>
      have hempty : c.addOns other = none := Classical.not_not.mp h
      by_cases hname : name = other
      · exact Or.inl (hname ▸ hempty)
      · exact Or.inr (by simp [apply, hname])
    | _ => exact Or.inr rfl

/-- An app gets a machine only if it had none. -/
theorem grown_machines (h : ¬ c.Duplicates call) (app : String) :
    Grown (c.machines app) ((c.apply m call).machines app) := by
  cases call with
  | machines other call =>
    cases call with
    | launch what =>
      have hempty : c.machines other = [] := Classical.not_not.mp h
      by_cases happ : app = other
      · subst happ
        exact Or.inr ⟨hempty, by simp [apply, hempty]⟩
      · exact Or.inl (by simp [apply, happ])
    | _ => exact .refl _
  | query q =>
    cases q with
    | createApp owner name role hasMachines =>
      left
      simp only [apply]
      cases c.newApp? m owner name <;> rfl
    | _ => exact .refl _

end Cloud

/-- What a wire does with a call: the request is lost, or it is applied and the reply comes or is
    lost. -/
theorem Wire.respond_cases (m : Minting) (w : Wire) (call : Call) :
    (∃ loss fates, w.respond m call = (.lost loss, { w with fates := fates })) ∨
    (∃ reply, (reply = w.cloud.reply m call ∨ ∃ loss, reply = .lost loss) ∧
      w.respond m call = (reply, w.applying m call)) := by
  unfold respond
  split
  · exact Or.inr ⟨_, Or.inl rfl, rfl⟩
  · rename_i loss _
    exact Or.inl ⟨loss, w.fates.tail, rfl⟩
  · rename_i loss _
    exact Or.inr ⟨_, Or.inr ⟨loss, rfl⟩, rfl⟩

/-- **A call that makes nothing twice keeps everything intact.** -/
theorem Intact.respond {m : Minting} {start : Cloud} {w : Wire} {call : Call} (h : Intact start w)
    (hcall : ¬ w.cloud.Duplicates call) : Intact start (w.respond m call).2 := by
  rcases w.respond_cases m call with ⟨loss, fates, hrespond⟩ | ⟨reply, -, hrespond⟩
  · -- a lost request changes nothing but what is to be lost next
    rw [hrespond]
    exact ⟨h.applied, h.shippers, h.addOns, h.machines⟩
  rw [hrespond]
  refine ⟨fun e he => ?_, fun organizationId => ?_, fun name => ?_, fun app => ?_⟩
  · rcases List.mem_append.mp he with hold | hnew
    · exact h.applied e hold
    · rw [List.mem_singleton.mp hnew]
      exact hcall
  · exact (h.shippers organizationId).trans (Cloud.grown_roleApps hcall organizationId)
  · rcases h.addOns name with hnone | hsame
    · exact Or.inl hnone
    · rcases Cloud.addOns_kept (m := m) hcall name with hempty | hkept
      · exact Or.inl (hsame ▸ hempty)
      · exact Or.inr (hkept.trans hsame)
  · exact (h.machines app).trans (Cloud.grown_machines hcall app)

/-! ## What the last replies tell

  What is known of the cloud is known from the exchanges right before.  It holds until something
  is changed, and what a license needs is always said by the last reply or the two last. -/

/-- What the exchanges of a setup so far tell of the cloud: what the last look-up shows not to be
    there, is not there, and so is what a listing shows before the question for the region. -/
structure Knows (before : List Exchange) (c : Cloud) : Prop where
  addOn : ∀ earlier name reply, before = earlier ++ [(.query (.addOn name), reply)] →
    ShowsNoAddOn reply → c.addOns name = none
  shipper : ∀ earlier organizationId reply,
    before = earlier ++ [(.query (.appsByRole shipperRole organizationId), reply)] →
    ShowsNoShipper reply → c.roleApps shipperRole organizationId = []
  machine : ∀ earlier app listing, before = earlier ++ [(.machines app .list, listing)] →
    ShowsNoMachine listing → c.machines app = []
  region : ∀ earlier app listing near,
    before = earlier ++ [(.machines app .list, listing), (.query .nearestRegion, near)] →
    ShowsNoMachine listing → c.machines app = []

/-- Before anything was asked nothing is told. -/
theorem Knows.nil (c : Cloud) : Knows [] c := by
  constructor <;> intros <;> simp_all

/-- A reply that was lost shows nothing to be missing: no add-on, no shipper and no machine. -/
theorem not_showsNoAddOn_lost (loss : Loss) : ¬ ShowsNoAddOn (.lost loss) := by
  rintro (⟨status, payload, entries, hreply, -⟩ | ⟨data, ⟨payload, hreply, -⟩, -⟩) <;> cases hreply

theorem not_showsNoShipper_lost (loss : Loss) : ¬ ShowsNoShipper (.lost loss) := by
  rintro ⟨data, ⟨payload, hreply, -⟩, -⟩
  cases hreply

theorem not_showsNoMachine_lost (loss : Loss) : ¬ ShowsNoMachine (.lost loss) := by
  rintro ⟨status, payload, hreply, -⟩
  cases hreply

/-- **A licensed call makes nothing twice.** -/
theorem Knows.not_duplicates {before : List Exchange} {c : Cloud} {call : Call} (h : Knows before c)
    (hlicensed : Licensed before call) : ¬ c.Duplicates call := by
  intro hduplicates
  unfold Licensed at hlicensed
  -- the license is by kind of creation; what is left creates nothing
  split at hlicensed
  · obtain ⟨earlier, reply, hbefore, hshows⟩ := hlicensed
    exact hduplicates (h.addOn earlier _ reply hbefore hshows)
  · obtain ⟨earlier, reply, hbefore, hshows⟩ := hlicensed
    exact hduplicates (h.shipper earlier _ reply hbefore hshows)
  · obtain ⟨earlier, listing, near, hbefore, hshows, -⟩ := hlicensed
    exact hduplicates (h.region earlier _ listing near hbefore hshows)
  · rename_i haddOn happ hmachine
    cases call with
    | query q =>
      cases q with
      | createApp organizationId name role hasMachines => exact happ _ _ _ _ rfl
      | createAddOn organizationId name appId addOnType => exact haddOn _ _ _ _ rfl
      | _ => exact hduplicates
    | machines app call =>
      cases call with
      | launch what => exact hmachine _ _ rfl
      | _ => exact hduplicates

/-- **A look-up tells the truth** about the cloud that it leaves. -/
theorem Knows.respond {m : Minting} {before : List Exchange} {w : Wire} {call : Call}
    (h : Knows before w.cloud) :
    Knows (before ++ [(call, (w.respond m call).1)]) (w.respond m call).2.cloud := by
  have hreply : (w.respond m call).1 = w.cloud.reply m call ∨ ∃ loss,
      (w.respond m call).1 = .lost loss := by
    rcases w.respond_cases m call with ⟨loss, fates, hrespond⟩ | ⟨reply, hcame, hrespond⟩
    · exact Or.inr ⟨loss, by rw [hrespond]⟩
    · rw [hrespond]
      exact hcame
  -- a call that reads leaves the cloud as it is, lost or not
  have hread : w.cloud.apply m call = w.cloud → (w.respond m call).2.cloud = w.cloud := by
    intro hsame
    rcases w.respond_cases m call with ⟨loss, fates, hrespond⟩ | ⟨reply, -, hrespond⟩
    · rw [hrespond]
    · rw [hrespond]
      exact hsame
  refine ⟨fun earlier name reply hbefore hshows => ?_,
    fun earlier organizationId reply hbefore hshows => ?_,
    fun earlier app listing hbefore hshows => ?_, fun earlier app listing near hbefore hshows => ?_⟩
  · obtain ⟨-, hlast⟩ := List.append_inj' hbefore rfl
    cases hlast
    rw [hread rfl]
    rcases hreply with hcame | ⟨loss, hlost⟩
    · exact Cloud.addOns_eq_none m (hcame ▸ hshows)
    · exact absurd (hlost ▸ hshows) (not_showsNoAddOn_lost loss)
  · obtain ⟨-, hlast⟩ := List.append_inj' hbefore rfl
    cases hlast
    rw [hread rfl]
    rcases hreply with hcame | ⟨loss, hlost⟩
    · exact Cloud.roleApps_eq_nil m (hcame ▸ hshows)
    · exact absurd (hlost ▸ hshows) (not_showsNoShipper_lost loss)
  · obtain ⟨-, hlast⟩ := List.append_inj' hbefore rfl
    cases hlast
    rw [hread rfl]
    rcases hreply with hcame | ⟨loss, hlost⟩
    · exact Cloud.machines_eq_nil m (hcame ▸ hshows)
    · exact absurd (hlost ▸ hshows) (not_showsNoMachine_lost loss)
  · -- the listing stands before the question for the region, and was told by it before
    rw [List.append_cons earlier] at hbefore
    obtain ⟨hfront, hlast⟩ := List.append_inj' hbefore rfl
    cases hlast
    rw [hread rfl]
    exact h.machine earlier app listing hfront hshows

/-! ## Whole runs

  From one call to a run, by induction on what was served, and from a run to a history.  Between
  two runs nothing is known. -/

/-- **A run whose calls are licensed keeps everything intact.**  The induction is on the exchanges,
    and what they tell so far goes with it. -/
theorem Intact.served {m : Minting} {start : Cloud} {before xs : List Exchange} {w last : Wire}
    (hserved : Served (Wire.respond m) w xs last) (hlicensed : LicensedFrom before xs)
    (hknows : Knows before w.cloud) (h : Intact start w) : Intact start last := by
  induction hserved generalizing before with
  | nil w => exact h
  | cons _ ih => exact ih hlicensed.2 hknows.respond (h.respond (hknows.not_duplicates hlicensed.1))

/-- A setup that is asked for. -/
structure Job where
  image : String
  appName : String
  answers : Answers

/-- The procedure of a setup that is asked for. -/
def Job.procedure (j : Job) : Procedure Summary := ship j.image j.appName j.answers

/-- **A setup keeps the invariant, however it ends**: its calls are licensed, and licensed calls
    make nothing twice. -/
theorem Intact.run {m : Minting} {start : Cloud} {w : Wire} (h : Intact start w) (j : Job) :
    Intact start (j.procedure.run (Wire.respond m) w).state := by
  have hcourse := shipCourse_of_run (Wire.respond m) j.image j.appName j.answers w
  exact h.served (served_run _ _ w) hcourse.moves.isLicensed (.nil _)

/-- Setups one after the other keep the invariant too, because nothing that is known in one of them
    is used in the next. -/
theorem Intact.runEach {m : Minting} {start : Cloud} {w : Wire} (h : Intact start w)
    (jobs : List Job) : Intact start (runEach (Wire.respond m) (jobs.map Job.procedure) w).2 := by
  induction jobs generalizing w with
  | nil => exact h
  | cons j jobs ih => exact ih (h.run j)

/-- **Nothing is created twice**: over every history of setups against every cloud, whatever is lost
    on the way. -/
theorem intact_after_history (m : Minting) (start : Cloud) (fates : List Fate) (jobs : List Job) :
    Intact start (runEach (Wire.respond m) (jobs.map Job.procedure) ⟨start, fates, []⟩).2 := by
  have hstart : Intact start ⟨start, fates, []⟩ :=
    ⟨nofun, fun _ => .refl _, fun _ => Or.inr rfl, fun _ => .refl _⟩
  exact hstart.runEach jobs

end LogDrain
