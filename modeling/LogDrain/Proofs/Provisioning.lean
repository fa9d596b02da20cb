/-
  PROVISIONING: what becomes of an app's add-on, by the look-up and the creation.

  `provisioning` says in one equation what is asked and what comes of it, as a function of what the
  look-up gives and of what a creation would give (`AddOnCourse.eq_provisioning`).  The rest is read
  off it: only a look-up that says "not found" leads on, only a slug with a kind of add-on leads to
  a creation, and what the creation stops with is the end, "not found" included (`Provisioned`).

  A creation whose reply shows no add-on is refused by the API's own fault, except where the reply
  cannot be looked into (`Impenetrable`): then it stops with a wrong shape.  `provisions_once` is
  the whole, and `mistakes_text_for_creation` such a reply.
-/
import LogDrain.Proofs.Breakage
import LogDrain.Proofs.Dialogue
import LogDrain.Proofs.Listing
import LogDrain.Proofs.Screening
import LogDrain.Proofs.Verdict

namespace LogDrain

open Procedure

/-! ## A creation that shows nothing

  What a reply has to be like so that its creation comes to nothing, by what it says and not by
  what is made of it. -/

/-- The fault is one of the API, "not found" included. -/
def Fault.IsApi (fault : Fault) : Prop := fault.kind = .api ∨ fault.kind = .notFound

/-- The reply cannot be looked into for a creation: its errors cannot be gone through, or something
    that is no object stands for the creation. -/
def Impenetrable (made : Reply) : Prop :=
  HasUnreadableErrors made ∨ ∃ v, Holds made ["createAddOn"] v ∧ v.Misplaced

/-- The reply shows an add-on that was created. -/
def ShowsNewAddOn (made : Reply) : Prop :=
    ∃ fields, Holds made ["createAddOn", "addOn"] (.obj fields)

/-- What comes of a creation that shows nothing: a fault of the API, if the reply can be looked
    into. -/
structure Fruitless {α : Type} (made : Reply) (r : Except Fault α) : Prop where
  refused : ¬ Impenetrable made → StopsWith Fault.IsApi r
  misread : Impenetrable made → Misread r

namespace Platform

variable {organizationId name appId addOnType : String} {made : Reply}

/-- Errors are reported as faults of the API, unless they are misread. -/
theorem refusal_cases (errors : List Fields) :
    (Envelope.refusal errors).IsApi ∨ (Envelope.refusal errors).IsShape := by
  unfold Envelope.refusal
  split
  · exact Or.inr trivial
  · exact Or.inl (Or.inr rfl)
  · exact Or.inl (Or.inl rfl)

/-- A reply without data is refused by the API's own fault, or misread. -/
theorem dataOf_error_cases (h : made ≠ .lost .other) {fault : Fault}
    (hfault : dataOf made = .error fault) : fault.IsApi ∨ fault.IsShape := by
  cases made with
  | lost loss =>
    cases loss with
    | other => exact absurd rfl h
    | _ =>
      cases hfault
      exact Or.inl (Or.inl rfl)
  | answered status payload =>
    -- without errors the status and the data decide, and the fault is the API's own
    cases hpresent : (Envelope.field (Envelope.body payload) "errors").isPresent with
    | false =>
      exact Or.inl (Or.inl ((Envelope.judged_read status payload).failed hpresent fault hfault))
    | true =>
      simp only [dataOf, Envelope.read, hpresent, if_true] at hfault
      split at hfault
      · cases hfault
        exact Or.inr trivial
      · cases hfault
        exact refusal_cases _

/-- Without data, only the errors can be in the way. -/
theorem impenetrable_of_error {fault : Fault} (hdata : dataOf made = .error fault) :
    Impenetrable made ↔ fault.IsShape := by
  have herrors : Misread (dataOf made) ↔ HasUnreadableErrors made := misread_dataOf
  have hdataless : ¬ ∃ v, Holds made ["createAddOn"] v ∧ v.Misplaced := by
    rintro ⟨v, ⟨data, hholds, -⟩, -⟩
    cases hdata.symm.trans (dataOf_eq_ok.mpr hholds)
  rw [hdata] at herrors
  rw [Impenetrable, or_iff_left hdataless]
  exact herrors.symm.trans stopsWith_error

/-- With data, only what stands for the creation can be. -/
theorem impenetrable_of_ok {data : Fields} (hdata : dataOf made = .ok data) :
    Impenetrable made ↔ (Fields.get data "createAddOn").Misplaced := by
  have herrors : Misread (dataOf made) ↔ HasUnreadableErrors made := misread_dataOf
  rw [hdata] at herrors
  rw [Impenetrable, or_iff_right (mt herrors.mpr (stopsWith_ok data))]
  constructor
  · rintro ⟨v, hholds, hv⟩
    obtain ⟨data', hdata', rfl⟩ := exists_dataOf hholds
    cases hdata.symm.trans hdata'
    exact hv
  · exact fun hv => ⟨_, holds_of_dataOf hdata rfl, hv⟩

theorem given_objectOr_of_ne {fault : ApiFault} {v : Json} (h : ∀ fields, v ≠ .obj fields) :
    (objectOr fault v).given made = .error (.api fault) := by
  unfold objectOr
  split
  · exact absurd rfl (h _)
  · rfl

/-- **A creation that shows no add-on** is refused, and misread exactly where its reply cannot be
    looked into. -/
theorem fruitless_createAddOn (h : made ≠ .lost .other) (hnone : ¬ ShowsNewAddOn made) :
    Fruitless made ((createAddOn organizationId name appId addOnType).given made) := by
  simp only [createAddOn, given_then, given_query, given_ofShape]
  cases hdata : dataOf made with
  | error fault =>
    have hiff := impenetrable_of_error hdata
    exact
      { refused := fun hplain =>
          ⟨fault, rfl, (dataOf_error_cases h hdata).resolve_right (mt hiff.mpr hplain)⟩
        misread := fun himpenetrable => ⟨fault, rfl, hiff.mp himpenetrable⟩ }
  | ok data =>
    -- there are no errors, so it is up to what stands for the creation
    have hstops := @Json.stops_memberOfPresent (Fields.get data "createAddOn") "addOn"
    have hiff := (impenetrable_of_ok hdata).trans hstops.symm
    show Fruitless made
      (((Fields.get data "createAddOn").memberOfPresent "addOn").mapError Fault.shape >>= _)
    cases hmember : (Fields.get data "createAddOn").memberOfPresent "addOn" with
    | error cause =>
      exact
        { refused := fun hplain => absurd (hiff.mpr ⟨cause, hmember, trivial⟩) hplain
          misread := fun _ => ⟨.shape cause, rfl, trivial⟩ }
    | ok v =>
      have hplain : ¬ Impenetrable made := by
        rw [hiff, hmember]
        exact stopsWith_ok v
      have hv : ∀ fields, v ≠ .obj fields := by
        rintro fields rfl
        have hpath := Json.leadsTo_of_memberOfPresent hmember fun hnull => by cases hnull
        exact hnone ⟨fields, holds_of_dataOf hdata hpath⟩
      refine ⟨fun _ => ?_, fun himpenetrable => absurd himpenetrable hplain⟩
      show StopsWith Fault.IsApi ((objectOr (.noAddOnCreated name) v).given made >>= _)
      rw [given_objectOr_of_ne hv]
      exact ⟨_, rfl, Or.inl rfl⟩

end Platform

namespace Setup

/-! ## One equation

  Provisioning against a queue depends on its first two replies alone, and `provisioning` is the
  function of them that it computes (`AddOnCourse.eq_provisioning`).  All that is said about it
  is read off this equation. -/

/-- What provisioning asks and what comes of it, from what the look-up gives and what a creation of
    a kind would give. -/
def provisioning (target : App) (slug : String) (lookup : Except Fault AddOn)
    (creation : String → Except Fault AddOn) : List Call × Except Fault String :=
  match lookup with
  | .ok addOn => ([addOnCall target], heldToken addOn)
  | .error fault =>
    if fault.kind = .notFound then
      match Provider.addOnType? slug with
      | none => ([addOnCall target], .error (.addOnType slug))
      | some addOnType =>
        ([addOnCall target, createAddOnCall target addOnType], creation addOnType >>= heldToken)
    else ([addOnCall target], .error fault)

variable {target : App} {slug : String} {xs : List Exchange} {r : Except Fault String}
  {replies rest : List Reply} {lookup : Except Fault AddOn} {creation : String → Except Fault AddOn}

/-- **Provisioning** is a function of the look-up's reply and the one after it. -/
theorem AddOnCourse.eq_provisioning (h : AddOnCourse target slug xs r)
    (hserved : Served nextReply replies xs rest) :
    (xs.map Prod.fst, r) =
      provisioning target slug ((Platform.addOn (addOnName target.name)).given (replyAt replies 0))
        fun addOnType => (makeAddOn target addOnType).given (replyAt (replies.drop 1) 0) := by
  -- each end of the course has its own replies, from which the function computes its result
  cases h with
  | found hfound =>
    obtain ⟨rfl, -⟩ := served_cons hserved
    simp only [provisioning, hfound]
    rfl
  | failed hfound hkind =>
    obtain ⟨rfl, -⟩ := served_cons hserved
    simp only [provisioning, hfound, if_neg hkind]
    rfl
  | unsupported hfound hkind htype =>
    obtain ⟨rfl, -⟩ := served_cons hserved
    simp only [provisioning, hfound, if_pos hkind, htype]
    rfl
  | refused hfound hkind htype hmade =>
    obtain ⟨rfl, hrest⟩ := served_cons hserved
    obtain ⟨rfl, -⟩ := served_cons hrest
    simp only [provisioning, hfound, if_pos hkind, htype, hmade]
    rfl
  | created hfound hkind htype hmade =>
    obtain ⟨rfl, hrest⟩ := served_cons hserved
    obtain ⟨rfl, -⟩ := served_cons hrest
    simp only [provisioning, hfound, if_pos hkind, htype, hmade]
    rfl

/-! ## What is said of provisioning

  The parts of the statement, in the words of the replies. -/

/-- The add-on hands over its token, unless that is empty. -/
structure HandsOver (addOn : AddOn) (r : Except Fault String) : Prop where
  token : addOn.token ≠ "" → r = .ok addOn.token
  tokenless : addOn.token = "" → FailsAs .api r

theorem handsOver_heldToken (addOn : AddOn) : HandsOver addOn (heldToken addOn) where
  token h := if_neg h
  tokenless h := ⟨.api (.noAddOnToken addOn.name), if_pos h, rfl⟩

/-- What becomes of a creation that was asked for: one is asked for, its add-on hands over its
    token, and every fault of it is the result. -/
structure Created (target : App) (addOnType : String) (creation : Except Fault AddOn) (made : Reply)
    (calls : List Call) (r : Except Fault String) : Prop where
  calls : calls = [addOnCall target, createAddOnCall target addOnType]
  created : ∀ addOn, creation = .ok addOn → HandsOver addOn r
  refused : ∀ fault, creation = .error fault → r = .error fault
  nothing : made ≠ .lost .other → ¬ ShowsNewAddOn made → Fruitless made r

/-- What provisioning comes to, with this look-up, this creation if there is one, and this reply to
    it. -/
structure Provisioned (target : App) (slug : String) (lookup : Except Fault AddOn)
    (creation : String → Except Fault AddOn) (made : Reply) (calls : List Call)
    (r : Except Fault String) : Prop where
  found : ∀ addOn, lookup = .ok addOn → calls = [addOnCall target] ∧ HandsOver addOn r
  failed : ∀ fault, lookup = .error fault → fault.kind ≠ .notFound →
    calls = [addOnCall target] ∧ r = .error fault
  unsupported : FailsAs .notFound lookup → Provider.addOnType? slug = none →
    calls = [addOnCall target] ∧ r = .error (.addOnType slug)
  submitted : ∀ addOnType, FailsAs .notFound lookup → Provider.addOnType? slug = some addOnType →
    Created target addOnType (creation addOnType) made calls r
  token : ∀ token, r = .ok token → token ≠ ""

/-- A token that comes of it is one that an add-on holds. -/
theorem ne_empty_of_provisioning {token : String}
    (h : (provisioning target slug lookup creation).2 = .ok token) : token ≠ "" := by
  unfold provisioning at h
  split at h
  · obtain ⟨hne, rfl⟩ := eq_of_heldToken h.symm
    exact hne
  · split at h
    · split at h
      · cases h
      · obtain ⟨addOn, -, htoken⟩ := bind_eq_ok.mp h
        obtain ⟨hne, rfl⟩ := eq_of_heldToken htoken.symm
        exact hne
    · cases h

theorem provisioning_of_notFound (h : FailsAs .notFound lookup) :
    provisioning target slug lookup creation =
      match Provider.addOnType? slug with
      | none => ([addOnCall target], .error (.addOnType slug))
      | some addOnType =>
        ([addOnCall target, createAddOnCall target addOnType],
          creation addOnType >>= heldToken) := by
  obtain ⟨fault, rfl, hkind⟩ := h
  simp only [provisioning, if_pos hkind]

/-- A creation that was asked for, read off the equation. -/
theorem created_of_provisioning {addOnType : String} {made : Reply} {e : Except Fault AddOn}
    (hmade : e = (makeAddOn target addOnType).given made) :
    Created target addOnType e made [addOnCall target, createAddOnCall target addOnType]
      (e >>= heldToken) where
  calls := rfl
  created addOn h := by
    rw [h]
    exact handsOver_heldToken addOn
  refused fault h := by
    rw [h]
    rfl
  nothing hreply hnone := by
    have hfruitless : Fruitless made e := hmade ▸ Platform.fruitless_createAddOn hreply hnone
    -- what stops the creation stops before its token is looked at
    exact
      { refused := fun hplain => stopsWith_bind.mpr (Or.inl (hfruitless.refused hplain))
        misread := fun himpenetrable => stopsWith_bind.mpr
          (Or.inl (hfruitless.misread himpenetrable)) }

/-- What the equation says. -/
theorem provisioned_of_eq {made : Reply} {calls : List Call}
    (hcreation : ∀ addOnType, creation addOnType = (makeAddOn target addOnType).given made)
    (h : (calls, r) = provisioning target slug lookup creation) :
    Provisioned target slug lookup creation made calls r where
  found addOn hfound := by
    rw [hfound] at h
    cases h
    exact ⟨rfl, handsOver_heldToken addOn⟩
  failed fault hfailed hkind := by
    rw [hfailed, provisioning, if_neg hkind] at h
    cases h
    exact ⟨rfl, rfl⟩
  unsupported hmissing htype := by
    rw [provisioning_of_notFound hmissing, htype] at h
    cases h
    exact ⟨rfl, rfl⟩
  submitted addOnType hmissing htype := by
    rw [provisioning_of_notFound hmissing, htype] at h
    cases h
    exact created_of_provisioning (hcreation addOnType)
  token value hvalue := by
    have hr : (provisioning target slug lookup creation).2 = .ok value := by rw [← h, ← hvalue]
    exact ne_empty_of_provisioning hr

/-- **An add-on is looked up, and created once if it is not found**, whatever the slug and the
    replies are; the token that it hands over is not empty, and every fault but the one look-up's
    "not found" is handed on as it is. -/
theorem provisions_once (target : App) (slug : String) (replies : List Reply) :
    let o := (provisionAddOn target slug).run nextReply replies
    Provisioned target slug ((Platform.addOn (addOnName target.name)).run nextReply replies).result
      (fun addOnType => ((makeAddOn target addOnType).run nextReply (replies.drop 1)).result)
      (replyAt (replies.drop 1) 0) o.calls o.result := by
  intro o
  have hcourse := addOnCourse_of_yields (yields_run nextReply (provisionAddOn target slug) replies)
  have heq := hcourse.eq_provisioning (served_run nextReply (provisionAddOn target slug) replies)
  have hmade : ∀ addOnType, ((makeAddOn target addOnType).run nextReply (replies.drop 1)).result =
      (makeAddOn target addOnType).given (replyAt (replies.drop 1) 0) := by
    intro addOnType
    rw [makeAddOn, (Platform.asksOnce_createAddOn _ _ _ _).result_run, nextReply_eq]
    rfl
  rw [(Platform.asksOnce_addOn _).result_run, nextReply_eq, Outcome.calls_eq]
  exact provisioned_of_eq hmade (by rw [funext hmade]; exact heq)

/-! ## A text in place of a creation

  The reply to the creation has a text where an object should be, and provisioning stops with a
  wrong shape in place of a failure of the creation. -/

namespace Mistaken

def owner : App := ⟨"app_web", "acme-web", ⟨"org_acme", "acme", "acme"⟩⟩

/-- What stands where the creation is looked for. -/
def created : Fields := [("createAddOn", .str "x")]

/-- No add-on is found, and then none is created. -/
def queue : List Reply := [Cloud.dataReply [("addOn", .null)], Cloud.dataReply created]

theorem not_showsNewAddOn : ¬ ShowsNewAddOn (replyAt (queue.drop 1) 0) := by
  rintro ⟨fields, hholds⟩
  obtain ⟨data, hdata, hpath⟩ := Platform.exists_dataOf hholds
  have hexact : (Json.obj created).IsExact := Cloud.isExact_single trivial
  cases (Cloud.dataOf_dataReply hexact).symm.trans hdata
  obtain ⟨_, htext, -⟩ := hpath
  cases htext

end Mistaken

open Mistaken in
/-- **A reply without an add-on is mistaken for one**: a text stands where the creation is looked
    for, and what the setup stops with is no fault of the API. -/
theorem mistakes_text_for_creation :
    let o := (provisionAddOn owner "logtail").run nextReply queue
    FailsAs .notFound ((Platform.addOn (addOnName owner.name)).run nextReply queue).result ∧
      Provider.addOnType? "logtail" = some "logtail" ∧
      replyAt (queue.drop 1) 0 ≠ .lost .other ∧ ¬ ShowsNewAddOn (replyAt (queue.drop 1) 0) ∧
      o.result = .error (.shape .noFields) ∧ ¬ StopsWith Fault.IsApi o.result := by
  intro o
  have hresult : o.result = .error (.shape .noFields) := by decide +kernel
  refine ⟨⟨.api (.absent "add-on acme-web-log-shipper"), by decide +kernel, rfl⟩, by decide, nofun,
    not_showsNewAddOn, hresult, ?_⟩
  rw [hresult]
  rintro ⟨_, ⟨⟩, hkind⟩
  rcases hkind with hkind | hkind <;> cases hkind

end Setup

end LogDrain
