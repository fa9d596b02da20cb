/-
  PRESENCE: what is there in a reply is no empty text afterwards.

  Whether something is there is asked of a value, and what is used afterwards is its text.  The two
  belong together: a value that is not nothing (`Json.IsNothing`) has a text with something in it,
  whether it is a text itself, a number, or made of other values.  From this follows, one after the
  other:

    1. the id of a machine, the token issued, the region, and the token of an add-on are not empty;
    2. a machine that was listed can be restarted: the fault for a machine without an id is out of
       reach (`RedeployCourse.ne_emptyMachineId`), and every restart has a machine in its address
       (`HasMachine`);
    3. the token that a deployment is issued, and writes, is not empty (`Deployment.mem_of_empty`).

  `returns_filled` has them all.  Provider's secrets are no texts of a reply.  Whoever deploys can
  hand over an empty value under the token's own key, and it is written as it is
  (`writes_given_empty_token`); a setup, which makes the secrets itself, never does.
-/
import LogDrain.Proofs.Addresses
import LogDrain.Proofs.Confinement
import LogDrain.Proofs.Screening

namespace LogDrain

open Procedure

/-! ## Something and nothing

  What counts as nothing is a short list of values.  That none of the others is shown as an
  empty text is shown by cases on the value. -/

/-- There is nothing: null, false, zero, or an empty text, array or object. -/
inductive Json.IsNothing : Json → Prop
  | null : IsNothing .null
  | no : IsNothing (.bool false)
  | zero : IsNothing (.int 0)
  | zeroReal {negative exponent} : IsNothing (.real (.finite negative 0 exponent))
  | emptyText : IsNothing (.str "")
  | emptyArray : IsNothing (.arr [])
  | emptyObject : IsNothing (.obj [])

/-- What is present is what is not nothing. -/
theorem Json.isPresent_iff {v : Json} : v.isPresent = true ↔ ¬ v.IsNothing := by
  constructor
  · rintro hpresent hnothing
    cases hnothing <;> cases hpresent
  · intro hsome
    -- a value that is not present is, by cases on its kind, one of the nothings
    refine Classical.byContradiction fun hpresent => hsome ?_
    cases v with
    | null => exact .null
    | bool b =>
      cases b with
      | false => exact .no
      | true => exact absurd rfl hpresent
    | int n =>
      obtain rfl : n = 0 := by simpa [isPresent] using hpresent
      exact .zero
    | real x =>
      cases x with
      | finite negative m exponent =>
        obtain rfl : m = 0 := by simpa [isPresent, Decimal.Binary64.isZero] using hpresent
        exact .zeroReal
      | nan | infinite => exact absurd rfl hpresent
    | str s =>
      obtain rfl : s = "" := by simpa [isPresent] using hpresent
      exact .emptyText
    | arr items =>
      obtain rfl : items = [] := by simpa [isPresent] using hpresent
      exact .emptyArray
    | obj fields =>
      obtain rfl : fields = [] := by simpa [isPresent] using hpresent
      exact .emptyObject

/-! ## What operations return

  An operation that takes a text that has to be there returns what is shown of it, and this is not
  empty. -/

/-- A machine that is launched has an id. -/
theorem Machines.launched_id_ne_empty {app : String} {what : Launch} {reply : Reply} {m : Machine}
    (h : (launch app what).given reply = .ok m) : m.id ≠ "" := by
  obtain ⟨status, payload, -, -, hread⟩ := readLaunch_of_launch h
  unfold readLaunch at hread
  split at hread
  · exact machine_id_ne_empty hread
  · cases hread

namespace Platform

/-- A text that has to be there is not empty once it is there. -/
theorem textOfPresent_ne_empty {reply : Reply} {fault : ApiFault} {v : Json} {text : String}
    (h : (textOfPresent fault v).given reply = .ok text) : text ≠ "" := by
  rw [given_textOfPresent] at h
  split at h
  · rename_i hpresent
    cases h
    exact Json.display_ne_empty hpresent
  · cases h

/-- The code of a region is not empty. -/
theorem region_ne_empty {reply : Reply} {region : String}
    (h : nearestRegion.given reply = .ok region) : region ≠ "" := by
  unfold nearestRegion at h
  rw [given_then] at h
  obtain ⟨data, -, hcode⟩ := bind_eq_ok.mp h
  rw [given_then] at hcode
  obtain ⟨code, -, htext⟩ := bind_eq_ok.mp hcode
  exact textOfPresent_ne_empty htext

end Platform

/-- A token that was issued is not empty. -/
theorem GivesToken.ne_empty {reply : Reply} {token : String} (h : GivesToken reply token) :
    token ≠ "" := by
  obtain ⟨v, -, hpresent, rfl⟩ := h
  exact Json.display_ne_empty hpresent

/-- A token that is handed over for an add-on is not empty. -/
theorem Setup.AddOnCourse.token_ne_empty {target : App} {slug token : String} {xs : List Exchange}
    (h : AddOnCourse target slug xs (.ok token)) : token ≠ "" := by
  generalize hr : Except.ok token = r at h
  cases h with
  | found | created =>
    obtain ⟨hne, rfl⟩ := eq_of_heldToken hr
    exact hne
  | failed | unsupported | refused => cases hr

/-! ## Restarts

  The id of a machine is part of the address of its restart, so an empty one would make it another
  address. -/

/-- What is not empty is not empty in its segment. -/
theorem Text.Percent.encode_ne_empty {text : String} (h : text ≠ "") : encode text ≠ "" := by
  intro hempty
  have hdecoded := (represents_encode text).decoded
  rw [hempty] at hdecoded
  exact h (String.toList_eq_nil_iff.mp (Option.some.inj hdecoded).symm)

namespace Call

/-- If the call is a restart, there is a machine in its address, whatever the settings are. -/
def HasMachine (call : Call) : Prop :=
  ∀ app id, call = .machines app (.restart id) → ∀ settings : Settings, ∃ segment, segment ≠ "" ∧
    (call.request settings).url = settings.machinesBase ++ "/v1/apps/" ++ Text.Percent.encode app ++
      ("/machines/" ++ segment ++ "/restart")

/-- A restart of a machine with an id has it in its address. -/
theorem hasMachine_restart {app id : String} (h : id ≠ "") :
    (Call.machines app (.restart id)).HasMachine := by
  rintro _ _ ⟨⟩ settings
  exact ⟨_, Text.Percent.encode_ne_empty h, rfl⟩

/-- What is no restart need not have one. -/
theorem hasMachine_of_not_deploys {call : Call} (h : ¬ call.Deploys) : call.HasMachine := by
  rintro app id rfl
  exact absurd trivial h

theorem hasMachine_query (q : Query) : (Call.query q).HasMachine := nofun

end Call

namespace Setup

/-- Every restart along the exchanges has a machine in its address. -/
def HaveMachines (xs : List Exchange) : Prop := ∀ x ∈ xs, x.1.HasMachine

namespace HaveMachines

variable {xs ys : List Exchange} {x : Exchange}

theorem nil : HaveMachines [] := nofun

theorem cons (hx : x.1.HasMachine) (hxs : HaveMachines xs) : HaveMachines (x :: xs) :=
  List.forall_mem_cons.mpr ⟨hx, hxs⟩

theorem append (hxs : HaveMachines xs) (hys : HaveMachines ys) : HaveMachines (xs ++ ys) :=
  List.forall_mem_append.mpr ⟨hxs, hys⟩

/-- Before anything is deployed nothing is restarted. -/
theorem of_not_deploys (h : ∀ x ∈ xs, ¬ x.1.Deploys) : HaveMachines xs :=
  fun x hx => Call.hasMachine_of_not_deploys (h x hx)

end HaveMachines

variable {xs : List Exchange}

/-- By induction on the machines: what is restarted has an id, or the row has stopped before it. -/
theorem RestartCourse.haveMachines {app : String} {skip : Bool} {machines : List Machine}
    {r : Except Fault Unit} (h : RestartCourse app skip machines xs r) : HaveMachines xs := by
  have hwait : ∀ id, (Call.machines app (.wait id "started" startSeconds)).HasMachine :=
    fun _ => Call.hasMachine_of_not_deploys id
  induction h with
  | nil | unnamed => exact .nil
  | refused hid => exact .cons (Call.hasMachine_restart hid) .nil
  | unready hid => exact .cons (Call.hasMachine_restart hid) (.cons (hwait _) .nil)
  | skipped hid _ _ _ ih => exact .cons (Call.hasMachine_restart hid) ih
  | waited hid _ _ _ _ ih => exact .cons (Call.hasMachine_restart hid) (.cons (hwait _) ih)

/-- **A redeployment finds every machine that it restarts.** -/
theorem RedeployCourse.haveMachines {target : App} {skip : Bool} {r : Except Fault Nat}
    (h : RedeployCourse target skip xs r) : HaveMachines xs := by
  have hlist : (listCall target).HasMachine := Call.hasMachine_of_not_deploys id
  cases h with
  | blank => exact .nil
  | unlisted => exact .cons hlist .nil
  | listed _ _ hrestart => exact .cons hlist hrestart.haveMachines

/-- **No redeployment stops for a machine without an id**: those that are listed have one. -/
theorem RedeployCourse.ne_emptyMachineId {target : App} {skip : Bool} {r : Except Fault Nat}
    (h : RedeployCourse target skip xs r) : r ≠ .error (.argument .emptyMachineId) :=
  fun hfault => h.endsOutward.not_isInward hfault (Or.inr (Or.inr rfl))

/-! ## Deployments

  The token and the ids, along a deployment. -/

section

variable {shipper : App} {secrets : List Secret} {r : Except Fault Nat}

theorem SecretsCourse.haveMachines {r : Except Fault Unit}
    (h : SecretsCourse shipper secrets xs r) : HaveMachines xs := by
  unfold SecretsCourse at h
  split at h
  · rw [h.eq.1]
    exact .nil
  · obtain ⟨reply, rfl, -⟩ := h.exists_reply
    exact .cons (Call.hasMachine_query _) .nil

/-- A deployment restarts what its listing shows. -/
theorem Deployment.haveMachines (h : Deployment shipper secrets xs r) : HaveMachines xs := by
  have htoken : (tokenCall shipper).HasMachine := Call.hasMachine_query _
  have hwrite : ∀ secrets, (secretsCall shipper secrets).HasMachine := fun _ =>
    Call.hasMachine_query _
  cases h with
  | untold => exact .cons htoken .nil
  | unwritten => exact .cons htoken (.cons (hwrite _) .nil)
  | unprovided _ hprovided => exact .cons htoken (.cons (hwrite _) hprovided.haveMachines)
  | written _ hprovided hredeploy =>
    exact .cons htoken (.cons (hwrite _) (hprovided.haveMachines.append hredeploy.haveMachines))

/-- **A deployment makes up no empty token**: one that it writes was handed over. -/
theorem Deployment.mem_of_empty (h : Deployment shipper secrets xs r)
    (hmem : ⟨tokenKey, ""⟩ ∈ writings xs) : ⟨tokenKey, ""⟩ ∈ secrets := by
  rcases h.writes with hnone | ⟨issue, token, wrote, rest, rfl, htoken, hrest⟩
  · rw [hnone] at hmem
    cases hmem
  have hwritten : writings ((tokenCall shipper, issue) ::
      (secretsCall shipper [⟨tokenKey, token⟩], wrote) :: rest) =
        ⟨tokenKey, token⟩ :: writings rest := rfl
  rw [hwritten] at hmem
  rcases List.mem_cons.mp hmem with hissued | hmem
  · cases hissued
    exact absurd rfl htoken.ne_empty
  rcases hrest with hrest | hrest <;> rw [hrest] at hmem
  · cases hmem
  · exact hmem

end

/-- What is deployed on its own is a deployment. -/
theorem deployment_of_run {σ : Type} (respond : σ → Call → Reply × σ) (shipper : App)
    (secrets : List Secret) (s : σ) :
    ∃ r, Deployment shipper secrets
      ((setCredentialAndDeploy shipper secrets).run respond s).exchanges r := by
  have hcourse := deployCourse_of_yields (yields_run respond
    (setCredentialAndDeploy shipper secrets) s)
  generalize ((setCredentialAndDeploy shipper secrets).run respond s).exchanges = xs at hcourse ⊢
  generalize ((setCredentialAndDeploy shipper secrets).run respond s).result = r at hcourse
  cases hcourse with
  | stopped h => exact ⟨_, h.deployment⟩
  | went h hkeys =>
    rw [hkeys.eq.1, List.append_nil]
    exact ⟨_, h.deployment⟩

/-- **No setup sends a restart without a machine in its address**, whoever replies. -/
theorem ship_haveMachines {σ : Type} (respond : σ → Call → Reply × σ) (image appName : String)
    (answers : Answers) (s : σ) :
    HaveMachines ((ship image appName answers).run respond s).exchanges := by
  have hstages := (shipCourse_of_run respond image appName answers s).stages
  generalize ((ship image appName answers).run respond s).exchanges = xs at hstages ⊢
  generalize ((ship image appName answers).run respond s).result = r at hstages
  cases hstages with
  | stopped hbefore => exact .of_not_deploys hbefore
  | deployed hprepared hdeployed =>
    exact (HaveMachines.of_not_deploys hprepared.not_deploys).append
      hdeployed.deployment.haveMachines

/-! ## The whole -/

/-- What is there is no empty text afterwards, with this responder from this state on. -/
structure ReturnsFilled {σ : Type} (respond : σ → Call → Reply × σ) (s : σ) : Prop where
  present : ∀ v : Json, v.isPresent = true ↔ ¬ v.IsNothing
  shown : ∀ v : Json, v.isPresent = true → v.display ≠ ""
  listed : ∀ app machines, ((Machines.list app).run respond s).result = .ok machines →
    ∀ m ∈ machines, m.id ≠ ""
  launched : ∀ app what m, ((Machines.launch app what).run respond s).result = .ok m → m.id ≠ ""
  issued : ∀ name organizationId profile params expiry token,
    ((Platform.createToken name organizationId profile params expiry).run respond s).result =
      .ok token → token ≠ ""
  near : ∀ region, (Platform.nearestRegion.run respond s).result = .ok region → region ≠ ""
  provisioned : ∀ target slug token,
    ((provisionAddOn target slug).run respond s).result = .ok token → token ≠ ""
  restarted : ∀ app id, HaveMachines ((Machines.restart app id).run respond s).exchanges
  redeployed : ∀ target skip,
    ((redeploy target skip).run respond s).result ≠ .error (.argument .emptyMachineId) ∧
      HaveMachines ((redeploy target skip).run respond s).exchanges
  deployed : ∀ shipper secrets,
    let xs := ((setCredentialAndDeploy shipper secrets).run respond s).exchanges
    HaveMachines xs ∧ (⟨"NATS_TOKEN", ""⟩ ∈ writings xs → ⟨"NATS_TOKEN", ""⟩ ∈ secrets)
  shipped : ∀ image appName answers,
    let xs := ((ship image appName answers).run respond s).exchanges
    HaveMachines xs ∧ ⟨"NATS_TOKEN", ""⟩ ∉ writings xs

/-- **What is there in a reply is no empty text afterwards**, whoever replies. -/
theorem returns_filled {σ : Type} (respond : σ → Call → Reply × σ) (s : σ) :
    ReturnsFilled respond s where
  present _ := Json.isPresent_iff
  shown _ h := Json.display_ne_empty h
  listed app _ h := by
    rw [(Machines.asksOnce_list app).result_run] at h
    exact Machines.id_ne_empty h
  launched app what _ h := by
    rw [(Machines.asksOnce_launch app what).result_run] at h
    exact Machines.launched_id_ne_empty h
  issued name organizationId profile params expiry _ h := by
    rw [(Platform.asksOnce_createToken name organizationId profile params expiry).result_run] at h
    exact (Platform.given_createToken_iff.mp h).ne_empty
  near _ h := by
    rw [Platform.asksOnce_nearestRegion.result_run] at h
    exact Platform.region_ne_empty h
  provisioned target slug _ h := by
    have hcourse := addOnCourse_of_yields (yields_run respond (provisionAddOn target slug) s)
    rw [h] at hcourse
    exact hcourse.token_ne_empty
  restarted app id := by
    by_cases hid : id = ""
    · have hstop : Machines.restart app id = .stop (.argument .emptyMachineId) := if_pos hid
      rw [hstop]
      exact .nil
    · obtain ⟨reply, hxs, -⟩ := (Machines.asksOnce_restart app hid).of_yields
        (yields_run respond (Machines.restart app id) s)
      rw [hxs]
      exact .cons (Call.hasMachine_restart hid) .nil
  redeployed target skip := by
    have hcourse := redeployCourse_of_yields (yields_run respond (redeploy target skip) s)
    exact ⟨hcourse.ne_emptyMachineId, hcourse.haveMachines⟩
  deployed shipper secrets := by
    obtain ⟨r, hdeployment⟩ := deployment_of_run respond shipper secrets s
    exact ⟨hdeployment.haveMachines, hdeployment.mem_of_empty⟩
  shipped image appName answers := by
    refine ⟨ship_haveMachines respond image appName answers s, fun hmem => ?_⟩
    -- the one secret under the token's key is the token that was issued
    obtain ⟨_, _, _, _, _, _, -, -, -, htoken⟩ :=
      (ship_confined respond image appName answers s).1.token _ hmem rfl
    exact htoken.ne_empty rfl

/-- An empty value that is handed over under the token's own key is written after the token. -/
theorem writes_given_empty_token :
    ⟨"NATS_TOKEN", ""⟩ ∈ writings ((setCredentialAndDeploy Foreign.shipper [⟨"NATS_TOKEN", ""⟩]).run
      nextReply
      [Cloud.dataReply
        [("createLimitedAccessToken", .obj
        [("limitedAccessToken", .obj [("token", .str "read")])])],
       Cloud.dataReply [], Cloud.dataReply [], Cloud.jsonReply (.arr [])]).exchanges := by
  decide +kernel

end Setup

end LogDrain
