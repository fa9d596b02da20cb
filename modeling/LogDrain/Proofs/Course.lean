/-
  COURSES: everything that a setup can go through, step by step.

  A course is a relation between exchanges and a result, like `Procedure.Yields`, but said in the
  words of the domain: which look-up was answered how, and what was asked next because of it.  For
  each procedure of the setup there is one course and one theorem (`addOnCourse_of_yields` and the
  others) that says that the procedure goes through nothing else.  Statements about a setup are then
  made by cases on courses, and none of them unfolds a procedure again.

    * `Once call p`     one call is asked, and the result is what `p` makes of the reply;
    * `Plain e`         nothing is asked;
    * `Then P Q`        first `P`, and `Q` from its value; a stop of `P` is a stop of the whole;
    * `AddOnCourse`, `MachineCourse`, `ShipperCourse`, `RestartCourse`
                        the look-ups that decide whether something is created, and the restarts;
    * `ShipCourse`      the whole, as a chain of `Then`.

  A course has more in it than the calls: it has the equations by which a reply gave the value
  that the next call is made of.  So a case of a course is a reply, its value and the next call at
  once, where an induction over the procedure would have to carry them along.  It is also where
  the procedures end: when one of them changes, its course and the theorem that ties the two
  change with it, and the statements that are still true are still proved.
-/
import LogDrain.Proofs.Operation
import LogDrain.Setup.Ship

namespace LogDrain.Setup

open Procedure

/-- Exchanges and what came of them. -/
abbrev Course (α : Type) := List Exchange → Except Fault α → Prop

variable {α β : Type}

/-! ## Courses in general

  Three ways to put courses together, and for each a law that takes it off a procedure. -/

/-- Nothing is asked. -/
inductive Plain (e : Except Fault α) : Course α
  | mk : Plain e [] e

/-- One call is asked, and the result is what the procedure makes of the reply. -/
inductive Once (call : Call) (p : Procedure α) : Course α
  | mk (reply : Reply) : Once call p [(call, reply)] (p.given reply)

/-- First the one and, from its value, the other. -/
inductive Then (P : Course α) (Q : α → Course β) : Course β
  | stopped {xs fault} : P xs (.error fault) → Then P Q xs (.error fault)
  | went {xs value ys r} : P xs (.ok value) → Q value ys r → Then P Q (xs ++ ys) r

/-- How three courses are put together makes no difference. -/
theorem Then.assoc {γ : Type} {P : Course α} {Q : α → Course β} {R : β → Course γ}
    {xs : List Exchange} {r : Except Fault γ} (h : Then P (fun value => Then (Q value) R) xs r) :
    Then (Then P Q) R xs r := by
  cases h with
  | stopped hP => exact .stopped (.stopped hP)
  | went hP hrest =>
    cases hrest with
    | stopped hQ => exact .stopped (.went hP hQ)
    | went hQ hR =>
      rw [← List.append_assoc]
      exact .went (.went hP hQ) hR

/-- A procedure that asks for nothing goes through nothing, and ends with what it makes of any
    reply. -/
theorem plain_of_silent {p : Procedure α} (h : p.Silent) {e : Except Fault α}
    (he : ∀ reply, p.given reply = e) {xs : List Exchange} {r : Except Fault α}
    (y : Yields p xs r) : Plain e xs r := by
  obtain ⟨rfl, hr⟩ := h.of_yields y
  -- any reply will do: the procedure does not look at it
  rw [hr (.lost .client), he]
  exact .mk

theorem plain_of_ofExcept {e : Except Fault α} {xs : List Exchange} {r : Except Fault α}
    (y : Yields (ofExcept e) xs r) : Plain e xs r :=
  plain_of_silent (silent_ofExcept e) (fun _ => given_ofExcept _ e) y

theorem plain_of_pure {value : α} {xs : List Exchange} {r : Except Fault α}
    (y : Yields (pure value) xs r) : Plain (.ok value) xs r := by
  cases y
  exact .mk

/-- A procedure that asks one call goes through that call. -/
theorem once_of_yields {call : Call} {p : Procedure α} (h : AsksOnce call p) {xs : List Exchange}
    {r : Except Fault α} (y : Yields p xs r) : Once call p xs r := by
  obtain ⟨reply, rfl, rfl⟩ := h.of_yields y
  exact .mk reply

/-- **Procedures in a row are courses in a row.**  This is the one place where a bind is opened:
    every course below that is a chain is had from it. -/
theorem then_of_yields {P : Course α} {Q : α → Course β} {p : Procedure α} {f : α → Procedure β}
    (hp : ∀ {xs r}, Yields p xs r → P xs r)
    (hf : ∀ {value xs r}, Yields (f value) xs r → Q value xs r)
    {xs : List Exchange} {r : Except Fault β} (y : Yields (p >>= f) xs r) : Then P Q xs r := by
  rcases Yields.of_bind y with ⟨fault, hxs, rfl⟩ | ⟨value, ys, zs, rfl, hys, hzs⟩
  · exact .stopped (hp hxs)
  · exact .went (hp hys) (hf hzs)

/-- A line that is noted first makes no difference. -/
theorem yields_of_say {level : LogLevel} {message : String} {f : Unit → Procedure β}
    {xs : List Exchange} {r : Except Fault β} (y : Yields (say level message >>= f) xs r) :
    Yields (f ()) xs r := by
  cases y with
  | note y => exact y

/-! ## The add-on

  The look-up is attempted: its fault is a value here, and decides whether the add-on is created. -/

/-- The token of an add-on, or the fault that it has none. -/
def heldToken (addOn : AddOn) : Except Fault String :=
  if addOn.token = "" then .error (.api (.noAddOnToken addOn.name)) else .ok addOn.token

theorem plain_tokenOf {addOn : AddOn} {xs : List Exchange} {r : Except Fault String}
    (y : Yields (tokenOf addOn) xs r) : Plain (heldToken addOn) xs r := by
  refine plain_of_silent ?_ (fun reply => ?_) y
  · unfold tokenOf
    split <;> exact trivial
  · unfold tokenOf heldToken
    split <;> rfl

/-- The look-up of an app's add-on. -/
def addOnCall (target : App) : Call := .query (.addOn (addOnName target.name))

/-- The creation of an app's add-on. -/
def createAddOnCall (target : App) (addOnType : String) : Call :=
  .query (.createAddOn target.organization.id (addOnName target.name) target.id addOnType)

/-- The procedure of that creation. -/
def makeAddOn (target : App) (addOnType : String) : Procedure AddOn :=
  Platform.createAddOn target.organization.id (addOnName target.name) target.id addOnType

/-- What provisioning an add-on can go through: it is found and used, the look-up fails, or it is
    not found, and then it is created if the provider has a kind of add-on. -/
inductive AddOnCourse (target : App) (slug : String) : Course String
  | found {reply addOn} : (Platform.addOn (addOnName target.name)).given reply = .ok addOn →
      AddOnCourse target slug [(addOnCall target, reply)] (heldToken addOn)
  | failed {reply fault} : (Platform.addOn (addOnName target.name)).given reply = .error fault →
      fault.kind ≠ .notFound → AddOnCourse target slug [(addOnCall target, reply)] (.error fault)
  | unsupported {reply fault} :
      (Platform.addOn (addOnName target.name)).given reply = .error fault →
      fault.kind = .notFound → Provider.addOnType? slug = none →
      AddOnCourse target slug [(addOnCall target, reply)] (.error (.addOnType slug))
  | refused {reply fault addOnType made failure} :
      (Platform.addOn (addOnName target.name)).given reply = .error fault →
      fault.kind = .notFound → Provider.addOnType? slug = some addOnType →
      (makeAddOn target addOnType).given made = .error failure →
      AddOnCourse target slug [(addOnCall target, reply), (createAddOnCall target addOnType, made)]
        (.error failure)
  | created {reply fault addOnType made addOn} :
      (Platform.addOn (addOnName target.name)).given reply = .error fault →
      fault.kind = .notFound → Provider.addOnType? slug = some addOnType →
      (makeAddOn target addOnType).given made = .ok addOn →
      AddOnCourse target slug [(addOnCall target, reply), (createAddOnCall target addOnType, made)]
        (heldToken addOn)

/-- What getting an add-on's token goes through: the look-up, and the creation if nothing was found
    and the provider has an add-on. -/
theorem addOnCourse_of_yields {target : App} {slug : String} {xs : List Exchange}
    {r : Except Fault String} (y : Yields (provisionAddOn target slug) xs r) :
    AddOnCourse target slug xs r := by
  rcases Yields.of_bind y with ⟨fault, yfound, -⟩ | ⟨found, ys, zs, rfl, yfound, ysettle⟩
  · -- an attempt does not stop
    obtain ⟨q, -, hq⟩ := Yields.of_attempt yfound
    cases hq
  -- the look-up is attempted, so its fault comes back as a value and is sorted by its kind
  obtain ⟨q, yfound, hq⟩ := Yields.of_attempt yfound
  cases hq
  obtain ⟨reply, rfl, hfound⟩ := (Platform.asksOnce_addOn _).of_yields yfound
  cases found with
  | ok existing =>
    obtain ⟨rfl⟩ := plain_tokenOf (yields_of_say ysettle)
    exact .found hfound.symm
  | error fault =>
    simp only [settleAddOn] at ysettle
    split at ysettle
    · rename_i hkind
      have ycreate := yields_of_say ysettle
      unfold createAddOn at ycreate
      split at ycreate
      · rename_i htype
        cases ycreate
        exact .unsupported hfound.symm hkind htype
      · rename_i addOnType htype
        rcases Yields.of_bind ycreate with ⟨failure, ymade, rfl⟩ | ⟨addOn, _, _, rfl, ymade, ytoken⟩
        · obtain ⟨made, rfl, hmade⟩ := (Platform.asksOnce_createAddOn _ _ _ _).of_yields ymade
          exact .refused hfound.symm hkind htype hmade.symm
        · obtain ⟨made, rfl, hmade⟩ := (Platform.asksOnce_createAddOn _ _ _ _).of_yields ymade
          obtain ⟨rfl⟩ := plain_tokenOf (yields_of_say ytoken)
          exact .created hfound.symm hkind htype hmade.symm
    · rename_i hkind
      cases ysettle
      exact .failed hfound.symm hkind

/-- What getting the provider's secrets can go through: an automatic provider has the add-on's
    token, any other one what was collected from the answers. -/
def ProviderCourse (target : App) (provider : Provider) (answers : Answers) :
    Course (List Secret) :=
  if provider.auto then
    Then (AddOnCourse target provider.slug) fun token =>
      Plain (.ok (provider.tokenSecret.toList.map fun key => ⟨key, token⟩))
  else Plain ((answers.collect provider).mapError .answers)

/-- What getting the provider's secrets goes through: an add-on for an automatic provider, and
    otherwise nothing but the answers. -/
theorem providerCourse_of_yields {target : App} {provider : Provider} {answers : Answers}
    {xs : List Exchange} {r : Except Fault (List Secret)}
    (y : Yields (providerSecrets target provider answers) xs r) :
    ProviderCourse target provider answers xs r := by
  unfold providerSecrets at y
  unfold ProviderCourse
  split at y
  · rename_i hauto
    rw [if_pos hauto]
    exact then_of_yields addOnCourse_of_yields plain_of_pure y
  · rename_i hauto
    rw [if_neg hauto]
    exact plain_of_ofExcept y

/-! ## The machine

  Listing, region and launch, with an end after each of them. -/

/-- The listing of an app's machines. -/
def listCall (app : App) : Call := .machines app.name .list

/-- The question for the nearest region. -/
def regionCall : Call := .query .nearestRegion

/-- The launch of a shipper's machine. -/
def launchCall (image : String) (shipper : App) (region : String) : Call :=
  .machines shipper.name (.launch (shipperLaunch image region))

/-- What ensuring a machine can go through: the listing fails, it shows a machine, or it shows none,
    and then one is launched in the nearest region. -/
inductive MachineCourse (image : String) (shipper : App) : Course Unit
  | blank : Text.isBlankText shipper.name = true →
      MachineCourse image shipper [] (.error (.argument .blankApp))
  | unlisted {listing fault} : Text.isBlankText shipper.name = false →
      (Machines.list shipper.name).given listing = .error fault →
      MachineCourse image shipper [(listCall shipper, listing)] (.error fault)
  | found {listing machines} : Text.isBlankText shipper.name = false →
      (Machines.list shipper.name).given listing = .ok machines → machines ≠ [] →
      MachineCourse image shipper [(listCall shipper, listing)] (.ok ())
  | nowhere {listing near fault} : Text.isBlankText shipper.name = false →
      (Machines.list shipper.name).given listing = .ok [] →
      Platform.nearestRegion.given near = .error fault →
      MachineCourse image shipper [(listCall shipper, listing), (regionCall, near)] (.error fault)
  | refused {listing near region made fault} : Text.isBlankText shipper.name = false →
      (Machines.list shipper.name).given listing = .ok [] →
      Platform.nearestRegion.given near = .ok region →
      (Machines.launch shipper.name (shipperLaunch image region)).given made = .error fault →
      MachineCourse image shipper
        [(listCall shipper, listing), (regionCall, near), (launchCall image shipper region, made)]
        (.error fault)
  | launched {listing near region made machine} : Text.isBlankText shipper.name = false →
      (Machines.list shipper.name).given listing = .ok [] →
      Platform.nearestRegion.given near = .ok region →
      (Machines.launch shipper.name (shipperLaunch image region)).given made = .ok machine →
      MachineCourse image shipper
        [(listCall shipper, listing), (regionCall, near), (launchCall image shipper region, made)]
        (.ok ())

/-- A blank name stops before anything is asked, any other one is handed on. -/
theorem yields_named {name : String} {f : String → Procedure β} {xs : List Exchange}
    {r : Except Fault β} (y : Yields (Machines.named name >>= f) xs r) :
    (Text.isBlankText name = true ∧ xs = [] ∧ r = .error (.argument .blankApp)) ∨
    (Text.isBlankText name = false ∧ Yields (f name) xs r) := by
  unfold Machines.named at y
  cases hblank : Text.isBlankText name with
  | true =>
    rw [hblank] at y
    cases y
    exact Or.inl ⟨rfl, rfl, rfl⟩
  | false =>
    rw [hblank] at y
    exact Or.inr ⟨rfl, y⟩

/-- What ensuring a machine goes through: nothing for a blank name, then the listing, the region and
    the launch, each only if the one before left something to do. -/
theorem machineCourse_of_yields {image : String} {shipper : App} {xs : List Exchange}
    {r : Except Fault Unit} (y : Yields (ensureMachine image shipper) xs r) :
    MachineCourse image shipper xs r := by
  rcases yields_named y with ⟨hblank, rfl, rfl⟩ | ⟨hblank, ylisted⟩
  · exact .blank hblank
  rcases Yields.of_bind ylisted with ⟨fault, ylist, rfl⟩ | ⟨machines, _, _, rfl, ylist, ydecide⟩
  · obtain ⟨listing, rfl, hlist⟩ := (Machines.asksOnce_list _).of_yields ylist
    exact .unlisted hblank hlist.symm
  obtain ⟨listing, rfl, hlist⟩ := (Machines.asksOnce_list _).of_yields ylist
  split at ydecide
  · rename_i hmachines
    cases ydecide
    exact .found hblank hlist.symm hmachines
  · rename_i hmachines
    -- from here on the listing was empty
    rw [Classical.not_not.mp hmachines] at hlist
    rcases Yields.of_bind ydecide with ⟨fault, ynear, rfl⟩ | ⟨region, _, _, rfl, ynear, ymake⟩
    · obtain ⟨near, rfl, hregion⟩ := Platform.asksOnce_nearestRegion.of_yields ynear
      exact .nowhere hblank hlist.symm hregion.symm
    obtain ⟨near, rfl, hregion⟩ := Platform.asksOnce_nearestRegion.of_yields ynear
    rcases Yields.of_bind ymake with ⟨fault, ymade, rfl⟩ | ⟨machine, _, _, rfl, ymade, ynote⟩
    · obtain ⟨made, rfl, hmade⟩ := (Machines.asksOnce_launch _ _).of_yields ymade
      exact .refused hblank hlist.symm hregion.symm hmade.symm
    · obtain ⟨made, rfl, hmade⟩ := (Machines.asksOnce_launch _ _).of_yields ymade
      cases ynote with
      | note ydone =>
        cases ydone
        exact .launched hblank hlist.symm hregion.symm hmade.symm

/-! ## The shipper

  The first of the shippers that are listed, or one that is created and gets its machine. -/

/-- The look-up of an organization's shippers. -/
def shippersCall (organization : Organization) : Call :=
  .query (.appsByRole shipperRole organization.id)

/-- The creation of an organization's shipper. -/
def createShipperCall (organization : Organization) : Call :=
  .query (.createApp organization.id (shipperAppName organization.rawSlug) (some shipperRole) true)

/-- The procedure of that creation. -/
def makeShipper (organization : Organization) : Procedure App :=
  Platform.createApp organization.id (shipperAppName organization.rawSlug) (some shipperRole) true

/-- What ensuring a shipper can go through: the look-up fails, it shows a shipper, or it shows none,
    and then one is created and gets its machine. -/
inductive ShipperCourse (image : String) (organization : Organization) : Course App
  | unlisted {reply fault} :
      (Platform.appsByRole shipperRole organization.id).given reply = .error fault →
      ShipperCourse image organization [(shippersCall organization, reply)] (.error fault)
  | found {reply shipper others} :
      (Platform.appsByRole shipperRole organization.id).given reply = .ok (shipper :: others) →
      ShipperCourse image organization [(shippersCall organization, reply)] (.ok shipper)
  | refused {reply made fault} :
      (Platform.appsByRole shipperRole organization.id).given reply = .ok [] →
      (makeShipper organization).given made = .error fault →
      ShipperCourse image organization
        [(shippersCall organization, reply), (createShipperCall organization, made)] (.error fault)
  | created {reply made shipper xs r} :
      (Platform.appsByRole shipperRole organization.id).given reply = .ok [] →
      (makeShipper organization).given made = .ok shipper →
      Then (MachineCourse image shipper) (fun _ => Plain (.ok shipper)) xs r →
      ShipperCourse image organization
        ((shippersCall organization, reply) :: (createShipperCall organization, made) :: xs) r

/-- What ensuring a shipper goes through: the look-up alone if it has one, and otherwise the
    creation and the new shipper's machine. -/
theorem shipperCourse_of_yields {image : String} {organization : Organization} {xs : List Exchange}
    {r : Except Fault App} (y : Yields (ensureShipper image organization) xs r) :
    ShipperCourse image organization xs r := by
  rcases Yields.of_bind y with ⟨fault, ylook, rfl⟩ | ⟨shippers, _, _, rfl, ylook, ydecide⟩
  · obtain ⟨reply, rfl, hlook⟩ := (Platform.asksOnce_appsByRole _ _).of_yields ylook
    exact .unlisted hlook.symm
  obtain ⟨reply, rfl, hlook⟩ := (Platform.asksOnce_appsByRole _ _).of_yields ylook
  cases shippers with
  | cons shipper others =>
    -- a warning of others is noted and asks for nothing
    simp only [warnOfMany] at ydecide
    split at ydecide
    · cases ydecide
      exact .found hlook.symm
    · have ydone := yields_of_say ydecide
      cases ydone
      exact .found hlook.symm
  | nil =>
    rcases Yields.of_bind ydecide with ⟨fault, ymade, rfl⟩ | ⟨shipper, _, _, rfl, ymade, yequip⟩
    · obtain ⟨made, rfl, hmade⟩ := (Platform.asksOnce_createApp _ _ _ _).of_yields ymade
      exact .refused hlook.symm hmade.symm
    · obtain ⟨made, rfl, hmade⟩ := (Platform.asksOnce_createApp _ _ _ _).of_yields ymade
      exact .created hlook.symm hmade.symm
        (then_of_yields machineCourse_of_yields plain_of_pure (yields_of_say yequip))

/-! ## The credential and the restarts

  The deployment: a token that is issued and written, the provider's secrets, and the restarts,
  which are a recursion on the machines. -/

/-- The question for a token that reads the logs of the shipper's organization. -/
def tokenCall (shipper : App) : Call :=
  .query (.createToken (credentialName shipper.organization.slug) shipper.organization.id
    readProfile .null none)

/-- The procedure of that question. -/
def issueToken (shipper : App) : Procedure String :=
  Platform.createToken (credentialName shipper.organization.slug) shipper.organization.id
    readProfile
    .null none

/-- The writing of secrets to a shipper. -/
def secretsCall (shipper : App) (secrets : List Secret) : Call :=
  .query (.setSecrets shipper.id secrets)

/-- What writing the credential goes through: a token is issued and written alone. -/
def CredentialCourse (shipper : App) : Course Unit :=
  Then (Once (tokenCall shipper) (issueToken shipper)) fun token =>
    Once (secretsCall shipper [⟨tokenKey, token⟩])
      (Platform.setSecrets shipper.id [⟨tokenKey, token⟩])

/-- What writing the provider's secrets goes through: nothing, if there are none. -/
def SecretsCourse (shipper : App) (secrets : List Secret) : Course Unit :=
  if secrets = [] then Plain (.ok ())
  else Once (secretsCall shipper secrets) (Platform.setSecrets shipper.id secrets)

/-- What restarting the machines one after the other can go through, with or without waiting. -/
inductive RestartCourse (app : String) (skip : Bool) : List Machine → Course Unit
  | nil : RestartCourse app skip [] [] (.ok ())
  | unnamed {machine machines} : machine.id = "" →
      RestartCourse app skip (machine :: machines) [] (.error (.argument .emptyMachineId))
  | refused {machine machines reply fault} : machine.id ≠ "" →
      (Machines.restart app machine.id).given reply = .error fault →
      RestartCourse app skip (machine :: machines)
        [(.machines app (.restart machine.id), reply)] (.error fault)
  | unready {machine machines reply ready fault} : machine.id ≠ "" → skip = false →
      (Machines.restart app machine.id).given reply = .ok () →
      (Machines.wait app machine.id "started" startSeconds).given ready = .error fault →
      RestartCourse app skip (machine :: machines)
        [(.machines app (.restart machine.id), reply),
          (.machines app (.wait machine.id "started" startSeconds), ready)] (.error fault)
  | skipped {machine machines reply xs r} : machine.id ≠ "" → skip = true →
      (Machines.restart app machine.id).given reply = .ok () →
      RestartCourse app skip machines xs r →
      RestartCourse app skip (machine :: machines)
        ((.machines app (.restart machine.id), reply) :: xs) r
  | waited {machine machines reply ready xs r} : machine.id ≠ "" → skip = false →
      (Machines.restart app machine.id).given reply = .ok () →
      (Machines.wait app machine.id "started" startSeconds).given ready = .ok () →
      RestartCourse app skip machines xs r →
      RestartCourse app skip (machine :: machines)
        ((.machines app (.restart machine.id), reply) ::
          (.machines app (.wait machine.id "started" startSeconds), ready) :: xs) r

/-- What redeploying can go through: the listing fails, or the machines listed are restarted. -/
inductive RedeployCourse (target : App) (skip : Bool) : Course Nat
  | blank : Text.isBlankText target.name = true →
      RedeployCourse target skip [] (.error (.argument .blankApp))
  | unlisted {listing fault} : Text.isBlankText target.name = false →
      (Machines.list target.name).given listing = .error fault →
      RedeployCourse target skip [(listCall target, listing)] (.error fault)
  | listed {listing machines xs r} : Text.isBlankText target.name = false →
      (Machines.list target.name).given listing = .ok machines →
      RestartCourse target.name skip machines xs r →
      RedeployCourse target skip ((listCall target, listing) :: xs) (r.map fun _ => machines.length)

/-- What writing the credential goes through: a token is issued and written. -/
theorem credentialCourse_of_yields {shipper : App} {xs : List Exchange} {r : Except Fault Unit}
    (y : Yields (writeCredential shipper) xs r) : CredentialCourse shipper xs r := by
  refine then_of_yields (once_of_yields (Platform.asksOnce_createToken _ _ _ _ _))
    (fun {token xs r} ywrite => ?_) y
  rcases Yields.of_bind ywrite with ⟨fault, yset, rfl⟩ | ⟨_, _, _, rfl, yset, ynote⟩
  · exact once_of_yields (Platform.asksOnce_setSecrets _ (List.cons_ne_nil _ _)) yset
  · cases ynote with
    | note ydone =>
      cases ydone
      rw [List.append_nil]
      exact once_of_yields (Platform.asksOnce_setSecrets _ (List.cons_ne_nil _ _)) yset

/-- What writing the provider's secrets goes through: one call, or none if there are none. -/
theorem secretsCourse_of_yields {shipper : App} {secrets : List Secret} {xs : List Exchange}
    {r : Except Fault Unit} (y : Yields (writeSecrets shipper secrets) xs r) :
    SecretsCourse shipper secrets xs r := by
  unfold writeSecrets at y
  unfold SecretsCourse
  split at y
  · rename_i hnone
    rw [if_pos hnone]
    exact plain_of_pure y
  · rename_i hsome
    rw [if_neg hsome]
    rcases Yields.of_bind y with ⟨fault, yset, rfl⟩ | ⟨_, _, _, rfl, yset, ynote⟩
    · exact once_of_yields (Platform.asksOnce_setSecrets _ hsome) yset
    · cases ynote with
      | note ydone =>
        cases ydone
        rw [List.append_nil]
        exact once_of_yields (Platform.asksOnce_setSecrets _ hsome) yset

/-- Restarting one machine and waiting for it, for the recursion over the machines. -/
theorem yields_restartMachine {app : String} {skip : Bool} {machine : Machine}
    {xs : List Exchange} {r : Except Fault Unit}
    (y : Yields (restartMachine app skip machine) xs r) :
    (machine.id = "" ∧ xs = [] ∧ r = .error (.argument .emptyMachineId)) ∨
    machine.id ≠ "" ∧ ∃ reply,
      (∃ fault, (Machines.restart app machine.id).given reply = .error fault ∧ r = .error fault ∧
        xs = [(.machines app (.restart machine.id), reply)]) ∨
      (Machines.restart app machine.id).given reply = .ok () ∧
        (skip = true ∧ r = .ok () ∧ xs = [(.machines app (.restart machine.id), reply)] ∨
          skip = false ∧ ∃ ready,
            r = (Machines.wait app machine.id "started" startSeconds).given ready ∧
            xs = [(.machines app (.restart machine.id), reply),
              (.machines app (.wait machine.id "started" startSeconds), ready)]) := by
  have yrestart := yields_of_say y
  -- without an id it stops at once; otherwise the restart is asked, and then perhaps the wait
  by_cases hid : machine.id = ""
  · left
    unfold Machines.restart at yrestart
    rw [if_pos hid] at yrestart
    cases yrestart
    exact ⟨hid, rfl, rfl⟩
  right
  refine ⟨hid, ?_⟩
  rcases Yields.of_bind yrestart with ⟨fault, yasked, rfl⟩ | ⟨_, _, _, rfl, yasked, ywait⟩
  · obtain ⟨reply, rfl, hreply⟩ := (Machines.asksOnce_restart app hid).of_yields yasked
    exact ⟨reply, Or.inl ⟨fault, hreply.symm, rfl, rfl⟩⟩
  obtain ⟨reply, rfl, hreply⟩ := (Machines.asksOnce_restart app hid).of_yields yasked
  refine ⟨reply, Or.inr ⟨hreply.symm, ?_⟩⟩
  cases skip with
  | true =>
    cases ywait
    exact Or.inl ⟨rfl, rfl, rfl⟩
  | false =>
    have hwait : AsksOnce (.machines app (.wait machine.id "started" startSeconds))
        (Machines.wait app machine.id "started" startSeconds) :=
      (Machines.asksOnce_ask _ _).bind fun _ => trivial
    obtain ⟨ready, rfl, hready⟩ := hwait.of_yields ywait
    exact Or.inr ⟨rfl, ready, hready, rfl⟩

/-- What the restarts go through: one machine after the other, each with a wait unless that is
    skipped, up to the first that stops. -/
theorem restartCourse_of_yields {app : String} {skip : Bool} {machines : List Machine}
    {xs : List Exchange} {r : Except Fault Unit} (y : Yields (restartAll app skip machines) xs r) :
    RestartCourse app skip machines xs r := by
  -- on the machines, as the procedure goes: each one is restarted to its end before the next
  induction machines generalizing xs r with
  | nil =>
    cases y
    exact .nil
  | cons machine machines ih =>
    rcases Yields.of_bind y with ⟨fault, yone, rfl⟩ | ⟨_, _, _, rfl, yone, yrest⟩
    · rcases yields_restartMachine yone with
        ⟨hid, rfl, hr⟩ | ⟨hid, reply, ⟨failure, hreply, hr, rfl⟩ | ⟨hreply, hwait⟩⟩
      · cases hr
        exact .unnamed hid
      · cases hr
        exact .refused hid hreply
      · rcases hwait with ⟨-, hr, -⟩ | ⟨hskip, ready, hr, rfl⟩
        · cases hr
        · exact .unready hid hskip hreply hr.symm
    · rcases yields_restartMachine yone with
        ⟨hid, rfl, hr⟩ | ⟨hid, reply, ⟨failure, hreply, hr, rfl⟩ | ⟨hreply, hwait⟩⟩
      · cases hr
      · cases hr
      · rcases hwait with ⟨hskip, -, rfl⟩ | ⟨hskip, ready, hr, rfl⟩
        · exact .skipped hid hskip hreply (ih yrest)
        · exact .waited hid hskip hreply hr.symm (ih yrest)

/-- What a redeployment goes through: nothing for a blank name, then the listing and the restarts.
    A listing without machines restarts none. -/
theorem redeployCourse_of_yields {target : App} {skip : Bool} {xs : List Exchange}
    {r : Except Fault Nat} (y : Yields (redeploy target skip) xs r) :
    RedeployCourse target skip xs r := by
  rcases yields_named y with ⟨hblank, rfl, rfl⟩ | ⟨hblank, ylisted⟩
  · exact .blank hblank
  rcases Yields.of_bind ylisted with ⟨fault, ylist, rfl⟩ | ⟨machines, _, _, rfl, ylist, yrest⟩
  · obtain ⟨listing, rfl, hlist⟩ := (Machines.asksOnce_list _).of_yields ylist
    exact .unlisted hblank hlist.symm
  obtain ⟨listing, rfl, hlist⟩ := (Machines.asksOnce_list _).of_yields ylist
  -- a listing without machines is a course of its own with no restart in it
  split at yrest
  · rename_i hnone
    subst hnone
    have ydone := yields_of_say yrest
    cases ydone
    exact .listed (r := .ok ()) hblank hlist.symm .nil
  · rcases Yields.of_bind yrest with ⟨fault, yall, rfl⟩ | ⟨_, _, _, rfl, yall, ydone⟩
    · exact .listed (r := .error fault) hblank hlist.symm (restartCourse_of_yields yall)
    · cases ydone
      rw [List.append_nil]
      exact .listed (r := .ok ()) hblank hlist.symm (restartCourse_of_yields yall)

/-! ## The whole

  The courses in a row.  A setup is put together from the right, as its procedure is written, and
  taken apart from the left. -/

/-- What came of the setup, once everything is written. -/
def summaryOf (target : App) (provider : Provider) (secrets : List Secret) (shipper : App) :
    Summary :=
  { targetApp := target.name, provider := provider.slug, shipperAppId := shipper.id
    shipperAppName := shipper.name, addOnProvisioned := provider.auto
    secretsWritten := tokenKey :: secrets.map (·.key) }

/-- What writing everything and restarting goes through. -/
def DeployCourse (shipper : App) (secrets : List Secret) : Course Nat :=
  Then (CredentialCourse shipper) fun _ =>
    Then (SecretsCourse shipper secrets) fun _ => RedeployCourse shipper true

/-- What a setup goes through once its provider is chosen. -/
def ChosenCourse (image : String) (target : App) (provider : Provider) (answers : Answers) :
    Course Summary :=
  Then (ProviderCourse target provider answers) fun secrets =>
    Then (ShipperCourse image target.organization) fun shipper =>
      Then (MachineCourse image shipper) fun _ =>
        Then (DeployCourse shipper secrets) fun _ =>
          Plain (.ok (summaryOf target provider secrets shipper))

/-- What a setup goes through. -/
def ShipCourse (image appName : String) (answers : Answers) : Course Summary :=
  Then (Once (.query (.app appName)) (Platform.app appName)) fun target =>
    Then (Plain ((answers.select Provider.catalog).mapError .answers)) fun provider =>
      ChosenCourse image target provider answers

/-- What the deployment goes through, with the keys that it ends with. -/
theorem deployCourse_of_yields {shipper : App} {secrets : List Secret} {xs : List Exchange}
    {r : Except Fault (List String)} (y : Yields (setCredentialAndDeploy shipper secrets) xs r) :
    Then (DeployCourse shipper secrets)
      (fun _ => Plain (.ok (tokenKey :: secrets.map (·.key)))) xs r := by
  have flat : Then (CredentialCourse shipper)
    (fun _ => Then (SecretsCourse shipper secrets) fun _ =>
      Then (RedeployCourse shipper true) fun _ =>
        Plain (.ok (tokenKey :: secrets.map (·.key)))) xs r := by
    refine then_of_yields credentialCourse_of_yields (fun ysecrets => ?_) y
    refine then_of_yields secretsCourse_of_yields (fun yredeploy => ?_) ysecrets
    refine then_of_yields redeployCourse_of_yields (fun ynote => ?_) yredeploy
    exact plain_of_pure (yields_of_say ynote)
  -- the procedure is put together from the right, the course from the left
  refine Then.assoc ?_
  cases flat with
  | stopped hcredential => exact .stopped hcredential
  | went hcredential hrest => exact .went hcredential hrest.assoc

/-- **What a whole setup goes through**, and nothing else: each step of the procedure is the course
    of that step. -/
theorem shipCourse_of_yields {image appName : String} {answers : Answers} {xs : List Exchange}
    {r : Except Fault Summary} (y : Yields (ship image appName answers) xs r) :
    ShipCourse image appName answers xs r := by
  refine then_of_yields (once_of_yields (Platform.asksOnce_app _)) (fun yselect => ?_) y
  refine then_of_yields plain_of_ofExcept (fun ynote => ?_) yselect
  refine then_of_yields providerCourse_of_yields (fun yshipper => ?_) (yields_of_say ynote)
  refine then_of_yields shipperCourse_of_yields (fun ynote => ?_) yshipper
  refine then_of_yields machineCourse_of_yields (fun ydeploy => ?_) (yields_of_say ynote)
  -- only the summary is left, which asks for nothing
  rcases Yields.of_bind ydeploy with ⟨fault, ystop, rfl⟩ | ⟨written, ys, zs, rfl, ydone, ysummary⟩
  · cases deployCourse_of_yields ystop with
    | stopped h => exact .stopped h
    | went _ h => cases h
  · cases ysummary
    cases deployCourse_of_yields ydone with
    | went h hkeys =>
      cases hkeys
      rw [List.append_nil]
      exact .went h .mk

/-- **A run of a setup follows its course**, whoever replies. -/
theorem shipCourse_of_run {σ : Type} (respond : σ → Call → Reply × σ) (image appName : String)
    (answers : Answers) (s : σ) :
    ShipCourse image appName answers ((ship image appName answers).run respond s).exchanges
      ((ship image appName answers).run respond s).result :=
  shipCourse_of_yields (yields_run respond _ s)

end LogDrain.Setup
