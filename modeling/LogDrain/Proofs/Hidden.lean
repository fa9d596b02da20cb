/-
  HIDDEN FAULTS: when a setup ends with a fault that is not told.

  A fault of one of the APIs, and one of the operator's answers, is told with a reason.  Everything
  else is hidden behind an answer of its own.  A setup ends with such a fault exactly if it stumbles
  over its last reply (`Stumbled`): the reply is misshapen, or it gives a shipper whose name is
  blank, about which the Machines API cannot be asked.

  How a setup ends is read off its last exchange (`Ending`): it was refused, or it was accepted and
  the setup ended well or with a fault that is told, or it gave a blank name.  The course of a setup
  is gone through once for this (`ShipCourse.ending`); what a refusal can be is known for every
  operation (`Exchange.isRemote_of_refusal`).

  Both directions have their own reason.  That a setup which stumbles is hidden is read off the
  last reply (`misshapen_iff`).  That nothing else is hidden needs more: the fault that ends a run
  has to be the one that its last exchange gave, and this is what an ending keeps while a course
  is put together from the right.
-/
import LogDrain.Proofs.Halves
import LogDrain.Proofs.Origin
import LogDrain.Proofs.Stage
import LogDrain.Web.Service

namespace LogDrain

/-- The fault is one of the APIs or of the operator's answers. -/
def Fault.IsExpected (fault : Fault) : Prop := fault.kind ∈ [.api, .notFound, .machines, .answers]

/-- The reply gives the organization's shipper, and its name is blank. -/
inductive GivesBlankShipper : Exchange → Prop
  | found {role organizationId reply shipper} : GivesShipper reply shipper →
      Text.isBlankText shipper.name = true →
      GivesBlankShipper (.query (.appsByRole role organizationId), reply)
  | created {organizationId name role machines reply shipper} : GivesNewApp reply shipper →
      Text.isBlankText shipper.name = true →
      GivesBlankShipper (.query (.createApp organizationId name role machines), reply)

/-- The exchanges end with a reply that is misshapen or gives a blank shipper. -/
def Stumbled (xs : List Exchange) : Prop := ∃ x ∈ xs.getLast?, Misshapen x ∨ GivesBlankShipper x

theorem ApiFault.isExpected (fault : ApiFault) : (Fault.api fault).IsExpected := by
  cases fault <;> simp [Fault.IsExpected, Fault.kind, ApiFault.kind]

theorem MachinesFault.isExpected (app : String) (fault : MachinesFault) :
    (Fault.machines app fault).IsExpected := by
  show fault.kind ∈ [FaultKind.api, .notFound, .machines, .answers]
  unfold MachinesFault.kind
  split
  · split <;> simp
  · simp

/-- A wrong shape is hidden wherever it was met, while every fault of the two APIs is told. -/
theorem ShapeFault.not_isExpected (fault : ShapeFault) : ¬ (Fault.shape fault).IsExpected := by
  cases fault <;> simp [Fault.IsExpected, Fault.kind, ShapeFault.kind]

/-! ## Blank shippers

  The Machines API is not asked about an app with a blank name.  So a blank name that a reply
  gave stops the setup at its next step, before anything else is asked, and the reply that gave
  it is the last. -/

section Shippers

variable {reply : Reply}

/-- A reply that gives a blank shipper is refused, if at all, with the wrong shape of another
    node. -/
theorem GivesBlankShipper.isShape_of_refusal {x : Exchange} (h : GivesBlankShipper x)
    {fault : Fault} (hfault : x.refusal? = some fault) : fault.IsShape := by
  have hstops : StopsWith (· = fault) (x.1.operation.given x.2) :=
    ⟨fault, Exchange.refusal?_eq_some.mp hfault, rfl⟩
  cases h with
  | found hgives =>
    obtain ⟨nodes, _, _, hholds, -⟩ := hgives
    have hlist := stopsWith_forget.mp hstops
    rw [Platform.given_appsByRole_of_holds hholds] at hlist
    obtain ⟨wrong, -, rfl⟩ := stopsWith_mapError.mp hlist
    trivial
  | created hgives =>
    have hmade := stopsWith_forget.mp hstops
    rw [Platform.given_createApp_iff.mpr hgives] at hmade
    exact absurd hmade (stopsWith_ok _)

end Shippers

namespace Setup

open Procedure

variable {α β : Type} {xs : List Exchange}

/-! ## How a run ends

  A fault says little about where it came from; the last exchange says more.  An ending joins the
  two, and is passed on unchanged when exchanges are put in front (`Ending.after`). -/

/-- The fault that a run ends with, if it ends with one. -/
def failure? : Except Fault α → Option Fault
  | .ok _ => none
  | .error fault => some fault

/-- To speak of the failure of a result is to speak of its fault, if it has one. -/
theorem forall_failure_iff {P : Fault → Prop} {r : Except Fault α} :
    (∀ fault ∈ failure? r, P fault) ↔ ∀ fault, r = .error fault → P fault := by
  cases r with
  | ok value => exact iff_of_true nofun nofun
  | error fault =>
    constructor
    · rintro h _ ⟨⟩
      exact h fault rfl
    · rintro h _ ⟨⟩
      exact h fault rfl

/-- How a run ends: its last reply was refused; or it was accepted, and the run ended well or with a
    fault that is expected; or it gave a blank name. -/
inductive Ending (xs : List Exchange) (failure : Option Fault) : Prop
  | refused {x} : x ∈ xs.getLast? → x.1.IsAskable → x.refusal? = failure → failure ≠ none →
      Ending xs failure
  | accepted {x} : x ∈ xs.getLast? → x.1.IsAskable → x.IsAccepted → ¬ GivesBlankShipper x →
      (∀ fault ∈ failure, fault.IsExpected) → Ending xs failure
  | blank {x} : x ∈ xs.getLast? → GivesBlankShipper x → failure = some (.argument .blankApp) →
      Ending xs failure

/-- What comes first does not change how a run ends. -/
theorem Ending.after {failure : Option Fault} (h : Ending xs failure) (before : List Exchange) :
    Ending (before ++ xs) failure := by
  cases h with
  | refused hlast hask hrefusal hsome =>
    exact .refused (mem_getLast?_append hlast) hask hrefusal hsome
  | accepted hlast hask haccepted hblank hexpected =>
    exact .accepted (mem_getLast?_append hlast) hask haccepted hblank hexpected
  | blank hlast hblank hfailure => exact .blank (mem_getLast?_append hlast) hblank hfailure

/-- **A run that has ended in one of these ways has an unexpected fault exactly if it stumbled.** -/
theorem Ending.expected_iff {failure : Option Fault} (h : Ending xs failure)
    (hreplies : ∀ x ∈ xs, x.2 ≠ .lost .other) :
    (∀ fault ∈ failure, fault.IsExpected) ↔ ¬ Stumbled xs := by
  cases h with
  | @refused x hlast hask hrefusal hsome =>
    cases failure with
    | none => exact absurd rfl hsome
    | some fault =>
    -- the refusal is a wrong shape or a fault of the API, by whether the reply is misshapen
    have hmisshapen := Exchange.misshapen_iff hask
    have hremote := Exchange.isRemote_of_refusal hask (hreplies x (List.mem_of_getLast? hlast))
      hrefusal
    constructor
    · rintro hexpected ⟨y, hy, hstumble⟩
      cases hy.symm.trans hlast
      have hshape : fault.IsShape := by
        rcases hstumble with hstumble | hstumble
        · obtain ⟨wrong, hwrong⟩ := hmisshapen.mp hstumble
          cases hrefusal.symm.trans hwrong
          trivial
        · exact hstumble.isShape_of_refusal hrefusal
      cases fault with
      | shape wrong => exact ShapeFault.not_isExpected wrong (hexpected _ rfl)
      | _ => cases hshape
    · rintro hnot _ ⟨⟩
      cases fault with
      | api fault => exact fault.isExpected
      | machines app fault => exact fault.isExpected app
      | shape wrong => exact absurd ⟨x, hlast, Or.inl (hmisshapen.mpr ⟨wrong, hrefusal⟩)⟩ hnot
      | _ => cases hremote
  | @accepted x hlast hask haccepted hblank hexpected =>
    -- an accepted reply is not misshapen, and gives no blank shipper here
    refine iff_of_true hexpected ?_
    rintro ⟨y, hy, hstumble⟩
    cases hy.symm.trans hlast
    rcases hstumble with hstumble | hstumble
    · obtain ⟨wrong, hwrong⟩ := (Exchange.misshapen_iff hask).mp hstumble
      cases haccepted.symm.trans hwrong
    · exact hblank hstumble
  | @blank x hlast hblank hfailure =>
    refine iff_of_false ?_ (not_not.mpr ⟨x, hlast, Or.inr hblank⟩)
    intro hexpected
    exact absurd (hexpected _ hfailure) (by simp [Fault.IsExpected, Fault.kind])

/-! ## The steps

  Each step ends as its last exchange does.  What needs care are steps that may stop without
  having asked: answers that are refused, and a shipper with a blank name, where the exchange to
  look at is one of an earlier step. -/

/-- A call that was refused ends the run with its refusal. -/
theorem Ending.of_error {call : Call} {p : Procedure α} {reply : Reply} {fault : Fault}
    (hp : call.operation = p.forget) (hask : call.IsAskable) (h : p.given reply = .error fault) :
    Ending [(call, reply)] (some fault) :=
  .refused rfl hask (Exchange.refusal?_of_error hp h) nofun

/-- A call that was accepted ends the run well, or before a fault that is told. -/
theorem Ending.of_ok {call : Call} {p : Procedure α} {reply : Reply} {value : α}
    {failure : Option Fault}
    (hp : call.operation = p.forget) (hask : call.IsAskable) (h : p.given reply = .ok value)
    (hblank : ¬ GivesBlankShipper (call, reply)) (hfailure : ∀ fault ∈ failure, fault.IsExpected) :
    Ending [(call, reply)] failure :=
  .accepted rfl hask (Exchange.isAccepted_of_ok hp h) hblank hfailure

/-- A call that is not about shippers ends a run with what its operation makes of the reply. -/
theorem Once.ending {call : Call} {p : Procedure α} {r : Except Fault α} (h : Once call p xs r)
    (hp : call.operation = p.forget) (hask : call.IsAskable)
    (hblank : ∀ reply, ¬ GivesBlankShipper (call, reply)) : Ending xs (failure? r) := by
  obtain ⟨reply⟩ := h
  cases hgiven : p.given reply with
  | ok value => exact .of_ok hp hask hgiven (hblank reply) nofun
  | error fault => exact .of_error hp hask hgiven

theorem expected_of_heldToken {addOn : AddOn} :
    ∀ fault ∈ failure? (heldToken addOn), fault.IsExpected := by
  unfold heldToken
  split
  · rintro _ ⟨⟩
    exact ApiFault.isExpected _
  · exact nofun

/-- The kind of add-on is known. -/
theorem AddOnCourse.ending {target : App} {slug : String} {r : Except Fault String}
    (h : AddOnCourse target slug xs r) (hslug : Provider.addOnType? slug ≠ none) :
    Ending xs (failure? r) := by
  cases h with
  | found hfound => exact .of_ok rfl trivial hfound nofun expected_of_heldToken
  | failed hfound _ => exact .of_error rfl trivial hfound
  | unsupported _ _ htype => exact absurd htype hslug
  | refused _ _ _ hmade =>
    refine Ending.after ?_ [_]
    exact .of_error (p := makeAddOn target _) rfl trivial hmade
  | created _ _ _ hmade =>
    refine Ending.after ?_ [_]
    exact .of_ok (p := makeAddOn target _) rfl trivial hmade nofun expected_of_heldToken

/-- Getting the secrets stops with the answers, before anything is asked, or ends as its exchanges
    do. -/
theorem ProviderCourse.ending {target : App} {provider : Provider} {answers : Answers}
    {fault : Fault}
    (h : ProviderCourse target provider answers xs (.error fault))
    (hoffer : provider ∈ Provider.catalog) :
    (xs = [] ∧ fault.IsExpected) ∨ Ending xs (some fault) := by
  unfold ProviderCourse at h
  split at h
  · rename_i hauto
    generalize hr : (.error fault : Except Fault (List Secret)) = r at h
    cases h with
    | stopped haddOn =>
      cases hr
      exact Or.inr (haddOn.ending (addOnType?_ne_none hoffer hauto))
    | went _ hplain => cases hr.trans hplain.eq.2
  · -- nothing is asked here, so the fault can only be one of the answers
    obtain ⟨rfl, hcollect⟩ := h.eq
    refine Or.inl ⟨rfl, ?_⟩
    cases hanswers : answers.collect provider with
    | ok secrets =>
      rw [hanswers] at hcollect
      cases hcollect
    | error cause =>
      rw [hanswers] at hcollect
      cases hcollect
      simp [Fault.IsExpected, Fault.kind]

/-- Ensuring a machine stops with a blank name, before anything is asked, or ends as its exchanges
    do. -/
theorem MachineCourse.ending {image : String} {shipper : App} {fault : Fault}
    (h : MachineCourse image shipper xs (.error fault)) :
    (xs = [] ∧ Text.isBlankText shipper.name = true ∧ fault = .argument .blankApp) ∨
      Ending xs (some fault) := by
  cases h with
  | blank hblank => exact Or.inl ⟨rfl, hblank, rfl⟩
  | unlisted _ hlist => exact Or.inr (.of_error rfl trivial hlist)
  | nowhere _ _ hregion =>
    refine Or.inr (Ending.after ?_ [_])
    exact .of_error rfl trivial hregion
  | refused _ _ _ hmade =>
    refine Or.inr (Ending.after ?_ [_, _])
    exact .of_error rfl trivial hmade

/-- What has a machine has a name: a blank one stops the step before anything is asked. -/
theorem MachineCourse.not_blank {image : String} {shipper : App}
    (h : MachineCourse image shipper xs (.ok ())) : Text.isBlankText shipper.name = false := by
  cases h with
  | found hname | launched hname => exact hname

/-- A shipper whose name is blank is given by the last reply. -/
theorem ShipperCourse.gives_blank {image : String} {organization : Organization} {shipper : App}
    (h : ShipperCourse image organization xs (.ok shipper))
    (hblank : Text.isBlankText shipper.name = true) : ∃ x ∈ xs.getLast?, GivesBlankShipper x := by
  generalize hr : (.ok shipper : Except Fault App) = r at h
  cases h with
  | unlisted | refused => cases hr
  | found hlook =>
    cases hr
    exact ⟨_, rfl, .found (Platform.givesShipper_of_ok hlook) hblank⟩
  | created _ _ hequip =>
    subst hr
    obtain ⟨_, _, _, -, hmachine, hplain⟩ := Then.of_ok hequip
    cases hplain.eq.2
    -- a new shipper got its machine, so its name is not blank
    rw [hmachine.not_blank] at hblank
    cases hblank

/-- A shipper that cannot be had: not listed, not created, or created with a blank name, over which
    its machine then stumbles. -/
theorem ShipperCourse.ending {image : String} {organization : Organization} {fault : Fault}
    (h : ShipperCourse image organization xs (.error fault)) : Ending xs (some fault) := by
  generalize hr : (.error fault : Except Fault App) = r at h
  cases h with
  | found => cases hr
  | unlisted hlook =>
    cases hr
    exact .of_error rfl trivial hlook
  | refused _ hmade =>
    cases hr
    refine Ending.after ?_ [_]
    exact .of_error (p := makeShipper organization) rfl trivial hmade
  | created _ hmade hequip =>
    cases hequip with
    | went _ hplain => cases hr.trans hplain.eq.2
    | stopped hmachine =>
      cases hr
      -- a blank name stops the machine before it asks, so the creation that gave the name is the
      -- last exchange
      rcases hmachine.ending with ⟨rfl, hblank, rfl⟩ | hend
      · refine Ending.after ?_ [_]
        exact .blank rfl (.created (Platform.given_createApp_iff.mp hmade) hblank) rfl
      · exact hend.after [_, _]

theorem CredentialCourse.ending {shipper : App} {r : Except Fault Unit}
    (h : CredentialCourse shipper xs r) : Ending xs (failure? r) := by
  cases h with
  | stopped hissue => exact hissue.ending rfl trivial nofun
  | went _ hwrite => exact (hwrite.ending rfl (List.cons_ne_nil _ _) nofun).after _

/-- If the secrets cannot be written, their call was the last. -/
theorem SecretsCourse.ending {shipper : App} {secrets : List Secret} {fault : Fault}
    (h : SecretsCourse shipper secrets xs (.error fault)) : Ending xs (some fault) := by
  unfold SecretsCourse at h
  split at h
  · cases h.eq.2
  · rename_i hsome
    exact h.ending rfl hsome nofun

/-- With the listing in front there is always a last exchange: it is the listing's until something
    is restarted. -/
theorem RestartCourse.ending {app : String} {machines : List Machine} {r : Except Fault Unit}
    {listing : Exchange} (h : RestartCourse app true machines xs r)
    (hids : ∀ m ∈ machines, m.id ≠ "")
    (hlisting : Ending [listing] none) : Ending (listing :: xs) (failure? r) := by
  -- on the restarts: each one is the last exchange until there is another
  induction h generalizing listing with
  | nil => exact hlisting
  | unnamed hid => exact absurd hid (hids _ List.mem_cons_self)
  | refused hid hreply =>
    refine Ending.after ?_ [_]
    exact .of_error rfl hid hreply
  | unready _ hskip | waited _ hskip => cases hskip
  | skipped hid _ hreply _ ih =>
    refine Ending.after ?_ [_]
    exact ih (fun m hm => hids m (List.mem_cons_of_mem _ hm)) (.of_ok rfl hid hreply nofun nofun)

theorem failure?_map {r : Except Fault α} {f : α → β} : failure? (r.map f) = failure? r := by
  cases r <;> rfl

/-- A redeployment of an app with a name that is not blank ends as its last exchange does. -/
theorem RedeployCourse.ending {target : App} {r : Except Fault Nat}
    (h : RedeployCourse target true xs r) (hname : Text.isBlankText target.name = false) :
    Ending xs (failure? r) := by
  cases h with
  | blank hblank =>
    rw [hname] at hblank
    cases hblank
  | unlisted _ hlist => exact .of_error rfl trivial hlist
  | listed _ hlist hrestart =>
    rw [failure?_map]
    exact hrestart.ending (Machines.id_ne_empty hlist) (.of_ok rfl trivial hlist nofun nofun)

theorem DeployCourse.ending {shipper : App} {secrets : List Secret} {r : Except Fault Nat}
    (h : DeployCourse shipper secrets xs r) (hname : Text.isBlankText shipper.name = false) :
    Ending xs (failure? r) := by
  cases h with
  | stopped hcredential => exact hcredential.ending
  | went _ hrest =>
    refine Ending.after ?_ _
    cases hrest with
    | stopped hsecrets => exact hsecrets.ending
    | went _ hredeploy => exact (hredeploy.ending hname).after _

/-! ## The whole

  The courses put together.  At the start the app is looked up, so there always is a last
  exchange. -/

/-- **A setup ends in one of these ways.** -/
theorem ShipCourse.ending {image appName : String} {answers : Answers} {r : Except Fault Summary}
    (h : ShipCourse image appName answers xs r) : Ending xs (failure? r) := by
  cases h with
  | stopped htarget => exact htarget.ending rfl trivial nofun
  | went htarget hselect =>
  obtain ⟨reply, rfl, hfound⟩ := htarget.exists_reply
  -- until something else is asked, the look-up of the app is the last exchange
  have hasked : ∀ {fault : Fault}, fault.IsExpected →
      Ending [((.query (.app appName), reply) : Exchange)] (some fault) := by
    intro fault hexpected
    exact .of_ok rfl trivial hfound nofun (by rintro _ ⟨⟩; exact hexpected)
  cases hselect with
  | stopped hchoice =>
    obtain ⟨rfl, hchosen⟩ := hchoice.eq
    cases hselected : answers.select Provider.catalog with
    | ok provider =>
      rw [hselected] at hchosen
      cases hchosen
    | error cause =>
      rw [hselected] at hchosen
      cases hchosen
      exact hasked (by simp [Fault.IsExpected, Fault.kind])
  | went hchoice hchosen =>
  obtain ⟨rfl, hselected⟩ := hchoice.eq
  have hoffer := mem_of_select (mapError_eq_ok.mp hselected.symm)
  cases hchosen with
  | stopped hprovided =>
    rcases hprovided.ending hoffer with ⟨rfl, hexpected⟩ | hend
    · exact hasked hexpected
    · exact hend.after _
  | went _ hrest =>
  refine Ending.after (Ending.after (Ending.after ?_ _) []) _
  cases hrest with
  | stopped hshipped => exact hshipped.ending
  | went hshipped hrest =>
  cases hrest with
  | stopped hequipped =>
    rcases hequipped.ending with ⟨rfl, hblank, rfl⟩ | hend
    · obtain ⟨x, hlast, hgives⟩ := hshipped.gives_blank hblank
      rw [List.append_nil]
      exact .blank hlast hgives rfl
    · exact hend.after _
  | went hequipped hrest =>
  refine Ending.after (Ending.after ?_ _) _
  cases hrest with
  | stopped hdeployed => exact hdeployed.ending hequipped.not_blank
  | went hdeployed hsummary =>
    obtain ⟨rfl, rfl⟩ := hsummary.eq
    rw [List.append_nil]
    exact hdeployed.ending hequipped.not_blank

/-- A fault that a run ends with is expected, or it is a wrong shape or a blank name. -/
theorem Ending.fault_cases {fault : Fault} (h : Ending xs (some fault))
    (hreplies : ∀ x ∈ xs, x.2 ≠ .lost .other) :
    fault.IsExpected ∨ fault.IsShape ∨ fault = .argument .blankApp := by
  cases h with
  | @refused x hlast hask hrefusal _ =>
    have hremote := Exchange.isRemote_of_refusal hask (hreplies x (List.mem_of_getLast? hlast))
      hrefusal
    cases fault with
    | api fault => exact Or.inl fault.isExpected
    | machines app fault => exact Or.inl (fault.isExpected app)
    | shape wrong => exact Or.inr (Or.inl trivial)
    | _ => cases hremote
  | accepted _ _ _ _ hexpected => exact Or.inl (hexpected _ rfl)
  | blank _ _ hfailure => exact Or.inr (Or.inr (Option.some.inj hfailure))

/-- The replies along a run are those of the queue, and requests that are lost once it is used
    up. -/
theorem reply_of_served {replies rest : List Reply} (h : Served nextReply replies xs rest) :
    ∀ x ∈ xs, x.2 ∈ replies ∨ x.2 = .lost .client := by
  induction h with
  | nil => exact nofun
  | @cons replies rest call xs _ ih =>
    intro x hx
    cases replies with
    | nil =>
      rcases List.mem_cons.mp hx with rfl | hx
      · exact Or.inr rfl
      · exact ih x hx
    | cons reply replies =>
      rcases List.mem_cons.mp hx with rfl | hx
      · exact Or.inl List.mem_cons_self
      · exact (ih x hx).imp_left (List.mem_cons_of_mem _)

end Setup

/-! ## What is answered

  From the result of the setup to the answer of the service.  The condition on halves of characters
  belongs here: a half alone cannot be encoded again, neither in an address that is made of a reply
  nor in the answer that shows its message. -/

namespace Web

/-- What the body of a request asks for, if it is a request to ship logs. -/
def Request.asked? (request : Request) : Option ShipRequest :=
  match Content.read request.contentType request.body with
  | .ok content => (ShipRequest.ofContent content).toOption
  | .error _ => none

/-- The request asks a service that is configured to ship logs. -/
structure Asks (env : Environment) (request : Request) (r : ShipRequest) : Prop where
  configured : ∃ settings, Settings.read .usual env = .ok settings
  target : request.target = shipPath
  method : request.method = "POST"
  asked : request.asked? = some r

/-- The same in texts: no half of a character stands alone in the body. -/
structure AsksInText (env : Environment) (request : Request) (r : ShipRequest) : Prop
    extends Asks env request r where
  paired : request.IsPaired

/-- Such a request is answered by running the setup. -/
theorem Asks.answer_eq {env : Environment} {request : Request} {r : ShipRequest}
    (h : Asks env request r) : answer env .ready request = runSetup env r := by
  obtain ⟨⟨settings, hsettings⟩, htarget, hmethod, hasked⟩ := h
  have hlacking : lacking? env .ready = none := by
    unfold lacking?
    rw [hsettings]
  unfold answer
  rw [if_pos htarget, if_pos hmethod]
  unfold Request.asked? at hasked
  unfold shipLogs
  rw [hlacking]
  -- the request asks for something, so its body was read and is a request
  cases hcontent : Content.read request.contentType request.body with
  | error fault =>
    rw [hcontent] at hasked
    cases hasked
  | ok content =>
    rw [hcontent] at hasked
    cases hread : ShipRequest.ofContent content with
    | error wrong =>
      simp only [hread] at hasked
      cases hasked
    | ok asked =>
      simp only [hread] at hasked ⊢
      cases hasked
      rfl

/-- What is concluded from how the setup ended is the answer; nothing else is done. -/
theorem Asks.run_of_conclude {σ : Type} (respond : σ → Call → Reply × σ) {env : Environment}
    {request : Request} {r : ShipRequest} (h : Asks env request r) {s : σ}
    {run : Procedure.Outcome σ Setup.Summary}
    (hrun : (Setup.ship (Setup.shipperImage env) r.appName (.of r.provider r.secrets)).run respond
      s = run)
    {a : Answer} (hconclude : conclude run.result = .done a) :
    (answer env .ready request).run respond s = ⟨.ok a, run.trace, run.state⟩ := by
  rw [h.answer_eq]
  show (Procedure.bind (Setup.ship _ _ _).attempt conclude).run respond s = _
  rw [Procedure.run_bind, Procedure.run_attempt, hrun]
  show Procedure.Outcome.mk ((conclude run.result).run respond run.state).result
    (run.trace ++ ((conclude run.result).run respond run.state).trace)
    ((conclude run.result).run respond run.state).state = _
  rw [hconclude]
  exact congrArg (Procedure.Outcome.mk _ · _) (List.append_nil _)

/-- A fault that is expected is told. -/
theorem refuse_of_isExpected {fault : Fault} (h : fault.IsExpected) :
    ∃ status, status ≠ 500 ∧ refuse fault.report = .done (.detail status fault.message) := by
  have hkind : fault.report.kind = fault.kind := rfl
  unfold Fault.IsExpected at h
  rw [← hkind] at h
  unfold refuse
  simp only [List.mem_cons, List.not_mem_nil, or_false] at h
  rcases h with h | h | h | h
  · rw [h]
    exact ⟨502, by decide, rfl⟩
  · rw [h]
    exact ⟨404, by decide, rfl⟩
  · rw [h]
    exact ⟨502, by decide, rfl⟩
  · rw [h]
    exact ⟨400, by decide, rfl⟩

/-- A wrong shape and a blank name are not. -/
theorem refuse_of_hidden {fault : Fault} (h : fault.IsShape ∨ fault = .argument .blankApp) :
    refuse fault.report = .done (.hidden fault.report) := by
  rcases h with h | rfl
  · cases fault with
    | shape wrong => cases wrong <;> rfl
    | _ => cases h
  · rfl

/-- The answer to what came of a setup hides a fault exactly if it is not expected. -/
theorem conclude_hides_iff {result : Except Fault Setup.Summary}
    (h : ∀ fault, result = .error fault →
      fault.IsExpected ∨ fault.IsShape ∨ fault = .argument .blankApp) :
    ∃ answer, conclude result = .done answer ∧
      (answer.status = 500 ↔ ¬ ∀ fault, result = .error fault → fault.IsExpected) := by
  cases result with
  | ok summary => exact ⟨_, rfl, iff_of_false nofun (not_not.mpr nofun)⟩
  | error fault =>
    have honly : (∀ other, (.error fault : Except Fault Setup.Summary) = .error other →
        other.IsExpected) ↔ fault.IsExpected :=
      ⟨fun hall => hall fault rfl, by rintro hexpected _ ⟨⟩; exact hexpected⟩
    rw [honly]
    -- what is not expected is one of the two kinds that the answer hides
    rcases h fault rfl with hexpected | hhidden
    · obtain ⟨status, hstatus, hrefuse⟩ := refuse_of_isExpected hexpected
      exact ⟨_, hrefuse, iff_of_false hstatus (not_not.mpr hexpected)⟩
    · refine ⟨_, refuse_of_hidden hhidden, iff_of_true rfl ?_⟩
      rcases hhidden with hshape | rfl
      · cases fault with
        | shape wrong => exact wrong.not_isExpected
        | _ => cases hshape
      · simp [Fault.IsExpected, Fault.kind]

end Web

namespace Setup

open Procedure

/-- **A setup ends with an unexpected fault, and the answer hides it, exactly if the setup stumbles
    over its last reply.** -/
theorem hidden_iff_stumbled {env : Environment} {request : Web.Request} {r : Web.ShipRequest}
    (h : Web.AsksInText env request r) {replies : List Reply}
    (hreplies : ∀ reply ∈ replies, reply.IsOrdinary) :
    let o := (ship (shipperImage env) r.appName (.of r.provider r.secrets)).run nextReply replies
    ((∀ fault, o.result = .error fault → fault.IsExpected) ↔ ¬ Stumbled o.exchanges) ∧
      ∃ answer, ((Web.answer env .ready request).run nextReply replies).result = .ok answer ∧
        (answer.status = 500 ↔ Stumbled o.exchanges) := by
  intro o
  -- the setup first, and then the answer that is made of its result
  have hend := (shipCourse_of_run nextReply (shipperImage env) r.appName (.of r.provider r.secrets)
    replies).ending
  have hlost : ∀ x ∈ o.exchanges, x.2 ≠ .lost .other := by
    intro x hx hother
    rcases reply_of_served (served_run nextReply _ replies) x hx with hmem | hclient
    · exact (hreplies _ hmem).known hother
    · rw [hother] at hclient
      cases hclient
  have hresult := forall_failure_iff.symm.trans (hend.expected_iff hlost)
  refine ⟨hresult, ?_⟩
  have hfault : ∀ fault, o.result = .error fault →
      fault.IsExpected ∨ fault.IsShape ∨ fault = .argument .blankApp := by
    intro fault hfault
    have hstop : Ending o.exchanges (failure? o.result) := hend
    rw [hfault] at hstop
    exact hstop.fault_cases hlost
  obtain ⟨answer, hanswer, hhides⟩ := Web.conclude_hides_iff hfault
  refine ⟨answer, ?_, ?_⟩
  · rw [h.answer_eq]
    show ((Procedure.bind (ship _ _ _).attempt Web.conclude).run nextReply replies).result = _
    rw [run_bind, run_attempt]
    show ((Web.conclude o.result).run nextReply o.state).result = _
    rw [hanswer]
    rfl
  · rw [hhides, hresult, not_not]

/-! ## An organization that is a text

  The first reply shows an organization that is a text instead of an object.  The setup ends, and
  so does the request, with a fault that is not told. -/

namespace Textual

def env : Environment := .ofPairs [("FLY_API_TOKEN", "tok")]

def request : Web.Request where
  method := "POST"
  path := "/logs/ship"
  contentType := some "application/json"
  body := Cloud.bodyOf (.obj [("app_name", .str "acme-web"), ("provider", .str "logtail")])

/-- The app is there, but its organization is a text. -/
def replies : List Reply :=
  [Cloud.dataReply
    [("app", .obj [("id", .str "app_web"), ("name", .str "acme-web"),
      ("organization", .str "acme")])]]

/-- What is asked of the service: the body holds a request, and the settings are there. -/
theorem asks : Web.Asks env request ⟨"acme-web", some "logtail", []⟩ where
  configured := ⟨_, rfl⟩
  target := by decide +kernel
  method := rfl
  asked := by decide +kernel

/-- Its body is plain, so no half of a character stands alone in it. -/
theorem asksInText : Web.AsksInText env request ⟨"acme-web", some "logtail", []⟩ where
  toAsks := asks
  paired := Web.Request.isPaired_of_bodyOf rfl (by simp [Json.IsExact, Json.HaveExact])

/-- Everything goes well up to the token, of which the reply has none. -/
def untokened : List Reply :=
  Foreign.replies.take 7 ++
    [Cloud.dataReply [("createLimitedAccessToken", .obj [("limitedAccessToken", .obj [])])]]

end Textual

open Textual in
/-- A reply without a token is not stumbled over, and what is lacking is told. -/
theorem told_without_token :
    Web.AsksInText env request ⟨"acme-web", some "logtail", []⟩ ∧
      (∀ reply ∈ untokened, reply.IsOrdinary) ∧
      ¬ Stumbled
        ((ship (shipperImage env) "acme-web" (.of (some "logtail") [])).run nextReply
          untokened).exchanges ∧
      ∃ answer, ((Web.answer env .ready request).run nextReply untokened).result = .ok answer ∧
        answer.status ≠ 500 := by
  have hpaired : ∀ reply ∈ untokened, reply ≠ .lost .other ∧ reply.IsPaired := by decide +kernel
  have hordinary : ∀ reply ∈ untokened, reply.IsOrdinary := fun reply hreply =>
    ⟨(hpaired reply hreply).1, (hpaired reply hreply).2⟩
  have hresult : ((ship (shipperImage env) "acme-web" (.of (some "logtail") [])).run nextReply
      untokened).result = .error (.api (.noTokenIssued "ops-logs")) := by decide +kernel
  obtain ⟨hexpected, answer, hanswer, hhides⟩ := hidden_iff_stumbled asksInText hordinary
  have hnot := hexpected.mp fun fault hfault => by
    cases hresult.symm.trans hfault
    exact ApiFault.isExpected _
  exact ⟨asksInText, hordinary, hnot, answer, hanswer, fun h => hnot (hhides.mp h)⟩

open Textual in
/-- **A reply of a wrong shape is hidden**: an organization that is a text, where a reply without an
    app would be told. -/
theorem hides_text_organization :
    Web.Asks env request ⟨"acme-web", some "logtail", []⟩ ∧ .lost .other ∉ replies ∧
      ((ship (shipperImage env) "acme-web" (.of (some "logtail") [])).run nextReply
        replies).result =
        .error (.shape .noFields) ∧
      ((Web.answer env .ready request).run nextReply replies).result.toOption.map (·.status) =
        some 500 :=
  ⟨asks, by decide +kernel, by decide +kernel, by decide +kernel⟩

end Setup

end LogDrain
