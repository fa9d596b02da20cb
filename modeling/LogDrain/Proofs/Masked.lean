/-
  MASKED STEPS: what a setup does with tokens and secret values, it does without looking at them.

  Procedures are masked twins (`Masked`) if they are twins up to replies that are alike and up to
  the values of secrets that are written.  Each operation is such a twin of itself (`masked_app` and
  the others).  What it ends with is equal, except that an add-on has another token, and that of an
  issued token nothing is said.  Each step of a setup is put together from these:
  `masked_ensureShipper`, `masked_provisionAddOn`, and `masked_setCredentialAndDeploy`, where
  secrets with the same keys are written.

  Nothing here looks at the value of a secret: calls that write secrets are compared by their keys
  (`SameKeys`).  Replies that differ come in at one point, where a reply is read, and there the
  laws of retokened replies say that what is read differs at most in the token.
-/
import LogDrain.Proofs.Operation
import LogDrain.Proofs.Retokened
import LogDrain.Setup.Ship

namespace LogDrain

open Procedure

/-! ## Calls that are alike

  Two calls are alike if they are the same, or if both write secrets to one app under the same
  keys.  This is all the freedom that is needed: a secret leaves a setup as the value of a secret
  that is written, and in no other way. -/

/-- The secrets have the same keys, in the same order. -/
def SameKeys (secrets secrets' : List Secret) : Prop :=
  secrets.map (·.key) = secrets'.map (·.key)

/-- Whether there is anything to write is told by the keys. -/
theorem SameKeys.eq_nil_iff {secrets secrets' : List Secret} (h : SameKeys secrets secrets') :
    secrets = [] ↔ secrets' = [] := by
  rw [← List.map_eq_nil_iff (f := Secret.key), h, List.map_eq_nil_iff]

/-- The calls are equal, or write secrets with the same keys to the same app. -/
def Call.Alike (call call' : Call) : Prop :=
  call = call' ∨ ∃ appId secrets secrets', SameKeys secrets secrets' ∧
    call = .query (.setSecrets appId secrets) ∧ call' = .query (.setSecrets appId secrets')

/-- The procedures are twins up to tokens and the values of secrets. -/
abbrev Masked {α : Type} (V : α → α → Prop) (p q : Procedure α) : Prop :=
  Twin Call.Alike Reply.Alike V p q

/-! ## Operations of the GraphQL API

  Each operation is compared with itself, on two replies that are alike.  The data agree but for a
  token in its place, and these operations do not look there: their own keys are others (`AlikeAt`
  for a path that is not theirs is equality). -/

namespace Platform

/-- Accepting a reply notes it in the log at most, and asks for nothing. -/
theorem silent_accept (reply : Reply) : (accept reply).Silent := by
  obtain ⟨next, hnext, hsilent⟩ := asksOnce_query .nearestRegion
  cases hnext
  exact hsilent reply

/-- Replies that are alike are accepted alike: both are lost in the same way, or both are answers of
    one status whose bodies differ in tokens only, and these are not noted. -/
theorem masked_accept {reply reply' : Reply} (h : reply.Alike reply') :
    Masked DataAlike (accept reply) (accept reply') := by
  rcases h with rfl | ⟨payload, payload', rfl, rfl, hbody⟩
  · exact .of_silent DataAlike.refl (silent_accept reply)
  · show Masked DataAlike (conclude (Envelope.read 200 payload))
      (conclude (Envelope.read 200 payload'))
    have hread := hbody.read
    generalize Envelope.read 200 payload = e, Envelope.read 200 payload' = e' at hread
    cases hread with
    | ok hdata => exact .done hdata
    | error fault => exact .of_silent DataAlike.refl (silent_conclude _)

/-- Operations that are alike are given data that are alike. -/
theorem masked_query {q q' : Query} (h : Call.Alike (.query q) (.query q')) :
    Masked DataAlike (query q) (query q') :=
  .ask h fun _ _ => masked_accept

/-- The look-up of an app reads no token, so the data may differ wherever they like in theirs. -/
theorem masked_app (name : String) : Masked Eq (app name) (app name) := by
  refine (masked_query (Or.inl rfl)).bind fun data data' hdata => ?_
  rw [hdata.get_eq (by decide)]
  exact .of_silent Eq.refl ((silent_objectOr _ _).bind fun _ => silent_ofShape _)

theorem masked_appsByRole (role organizationId : String) :
    Masked Eq (appsByRole role organizationId) (appsByRole role organizationId) := by
  refine (masked_query (Or.inl rfl)).bind fun data data' hdata => ?_
  rw [hdata.get_eq (by decide)]
  exact .of_silent Eq.refl ((silent_ofShape _).bind fun _ => (silent_ofShape _).bind fun _ =>
    silent_ofShape _)

theorem masked_createApp (organizationId name : String) (role : Option String) (machines : Bool) :
    Masked Eq (createApp organizationId name role machines)
      (createApp organizationId name role machines) := by
  refine (masked_query (Or.inl rfl)).bind fun data data' hdata => ?_
  rw [hdata.get_eq (by decide)]
  exact .of_silent Eq.refl
    ((silent_ofShape _).bind fun _ => (silent_objectOr _ _).bind fun _ => silent_ofShape _)

theorem masked_nearestRegion : Masked Eq nearestRegion nearestRegion := by
  refine (masked_query (Or.inl rfl)).bind fun data data' hdata => ?_
  rw [hdata.get_eq (by decide)]
  exact .of_silent Eq.refl ((silent_ofShape _).bind fun _ => silent_textOfPresent _ _)

/-- Secrets are written whatever their values: these go into the body of the request and nowhere
    else. -/
theorem masked_setSecrets (appId : String) {secrets secrets' : List Secret}
    (h : SameKeys secrets secrets') :
    Masked Eq (setSecrets appId secrets) (setSecrets appId secrets') := by
  unfold setSecrets
  by_cases hnil : secrets = []
  · rw [if_pos hnil, if_pos (h.eq_nil_iff.mp hnil)]
    exact .stop _
  -- there is something to write on both sides, and the two calls are alike
  · rw [if_neg hnil, if_neg fun hnil' => hnil (h.eq_nil_iff.mpr hnil')]
    exact (masked_query (Or.inr ⟨appId, secrets, secrets', h, rfl, rfl⟩)).bind fun _ _ _ =>
      .done rfl

/-! ## Operations that hand on a token

  Here the data are read at the place of a token.  What is there is a text that is not empty in
  both, so both go on, with values that may differ: an add-on alike, or a token of which nothing
  is said. -/

/-- A step into an object keeps the place where the two may differ. -/
theorem masked_objectOr (fault : ApiFault) {key : String} {path : List String} {v w : Json}
    (h : Json.AlikeAt (key :: path) v w) :
    Masked (Json.AlikeAt (key :: path)) (objectOr fault v) (objectOr fault w) := by
  rcases h with rfl | h
  · exact .of_silent (Json.AlikeAt.refl _) (silent_objectOr fault v)
  · cases h with
    | field h => exact .done (Or.inr (.field h))

/-- **An add-on is looked up with its token unread**: the two add-ons are equal up to it. -/
theorem masked_addOn (name : String) : Masked AddOn.Alike (addOn name) (addOn name) := by
  refine (masked_query (Or.inl rfl)).bind fun data data' hdata => ?_
  have hfound : Json.AlikeAt ["token"] _ _ := hdata.get "addOn" (by simp [tokenPaths])
  exact (masked_objectOr _ hfound).bind fun _ _ h => .ofShape (AddOn.ofJson_alike h)

theorem masked_createAddOn (organizationId name appId addOnType : String) :
    Masked AddOn.Alike (createAddOn organizationId name appId addOnType)
      (createAddOn organizationId name appId addOnType) := by
  refine (masked_query (Or.inl rfl)).bind fun data data' hdata => ?_
  have hcreated : Json.AlikeAt ["addOn", "token"] _ _ :=
    hdata.get "createAddOn" (by simp [tokenPaths])
  refine (Twin.ofShape hcreated.memberOfPresent).bind fun _ _ hmember => ?_
  exact (masked_objectOr _ hmember).bind fun _ _ h => .ofShape (AddOn.ofJson_alike h)

/-- Of issued tokens nothing is said, but that both are issued or none is. -/
theorem masked_createToken (name organizationId profile : String) (params : Json)
    (expiry : Option String) :
    Masked (fun _ _ => True) (createToken name organizationId profile params expiry)
      (createToken name organizationId profile params expiry) := by
  refine (masked_query (Or.inl rfl)).bind fun data data' hdata => ?_
  have hcreated : Json.AlikeAt ["limitedAccessToken", "token"] _ _ :=
    hdata.get "createLimitedAccessToken" (by simp [tokenPaths])
  refine (Twin.ofShape hcreated.memberOfPresent).bind fun _ _ hissued => ?_
  refine (Twin.ofShape hissued.memberOfPresent).bind fun token token' htoken => ?_
  rcases htoken with rfl | htoken
  · exact .of_silent (fun _ => trivial) (silent_textOfPresent _ _)
  · obtain ⟨hpresent, hpresent'⟩ := htoken.isPresent
    unfold textOfPresent
    rw [if_pos hpresent, if_pos hpresent']
    exact .done trivial

end Platform

/-! ## Operations of the Machines API

  Bodies of this API have no data, so replies that are alike give the same machines. -/

namespace Machines

/-- Accepting a reply of the Machines API asks for nothing either. -/
theorem silent_accept (app : String) (call : MachineCall) (reply : Reply) :
    (accept app call reply).Silent := by
  obtain ⟨next, hnext, hsilent⟩ := asksOnce_ask app call
  cases hnext
  exact hsilent reply

/-- A call is given bodies that are equal or retokened. -/
theorem masked_ask (app : String) (call : MachineCall) :
    Masked BodyAlike (ask app call) (ask app call) := by
  refine .ask (Or.inl rfl) fun reply reply' h => ?_
  rcases h with rfl | ⟨payload, payload', rfl, rfl, hbody⟩
  · exact .of_silent BodyAlike.refl (silent_accept app call reply)
  · exact .done (Or.inr hbody)

/-- Whether the app has a name is settled before anything is asked. -/
theorem masked_named (app : String) : Masked Eq (named app) (named app) := by
  refine .of_silent Eq.refl ?_
  unfold named
  split <;> exact trivial

theorem masked_list (app : String) : Masked Eq (list app) (list app) := by
  refine (masked_ask app .list).bind fun payload payload' h => ?_
  rcases h with rfl | h
  · exact .of_silent Eq.refl (silent_ofExcept _)
  · rw [h.readList]
    exact .of_silent Eq.refl (silent_ofExcept _)

theorem masked_launch (app : String) (what : Launch) :
    Masked Eq (launch app what) (launch app what) := by
  refine (masked_ask app (.launch what)).bind fun payload payload' h => ?_
  rcases h with rfl | h
  · exact .of_silent Eq.refl (silent_ofExcept _)
  · rw [h.readLaunch]
    exact .of_silent Eq.refl (silent_ofExcept _)

/-- A restart reads nothing of its reply. -/
theorem masked_restart (app machineId : String) :
    Masked Eq (restart app machineId) (restart app machineId) := by
  unfold restart
  split
  · exact .stop _
  · exact (masked_ask app (.restart machineId)).bind fun _ _ _ => .done rfl

theorem masked_wait (app machineId state : String) (seconds : Int) :
    Masked Eq (wait app machineId state seconds) (wait app machineId state seconds) :=
  (masked_ask app (.wait machineId state seconds)).bind fun _ _ _ => .done rfl

end Machines

/-! ## Steps of a setup

  Steps are put together with `bind_eq`, which passes on an equal value, as long as no token is in
  it. -/

/-- What is noted in a step is a text that the step was given, the same on both sides. -/
theorem masked_say (level : LogLevel) (message : String) :
    Masked Eq (say level message) (say level message) :=
  .note _ (.done rfl)

namespace Setup

/-- The restarts in a row: each is masked by itself, and the listing that they follow is the
    same. -/
theorem masked_restartAll (app : String) (skipHealthChecks : Bool) (machines : List Machine) :
    Masked Eq (restartAll app skipHealthChecks machines)
      (restartAll app skipHealthChecks machines) := by
  have hone : ∀ machine, Masked Eq (restartMachine app skipHealthChecks machine)
      (restartMachine app skipHealthChecks machine) := by
    intro machine
    refine (masked_say _ _).bind_eq fun _ =>
      (Machines.masked_restart app machine.id).bind_eq fun _ => ?_
    cases skipHealthChecks with
    | true => exact .done rfl
    | false => exact Machines.masked_wait app machine.id "started" startSeconds
  induction machines with
  | nil => exact .done rfl
  | cons machine machines ih => exact (hone machine).bind_eq fun _ => ih

theorem masked_redeploy (target : App) (skipHealthChecks : Bool) :
    Masked Eq (redeploy target skipHealthChecks) (redeploy target skipHealthChecks) := by
  refine (Machines.masked_named target.name).bind_eq fun app => ?_
  refine (Machines.masked_list app).bind_eq fun machines => ?_
  split
  · exact (masked_say _ _).bind_eq fun _ => .done rfl
  · exact (masked_restartAll app skipHealthChecks machines).bind_eq fun _ => .done rfl

theorem masked_ensureMachine (image : String) (shipper : App) :
    Masked Eq (ensureMachine image shipper) (ensureMachine image shipper) := by
  refine (Machines.masked_named shipper.name).bind_eq fun app => ?_
  refine (Machines.masked_list app).bind_eq fun machines => ?_
  split
  · exact .done rfl
  · refine Platform.masked_nearestRegion.bind_eq fun region => ?_
    exact (Machines.masked_launch app (shipperLaunch image region)).bind_eq fun _ => masked_say _ _

/-- Ensuring a shipper does the same on both sides: which of the shippers is taken depends on
    nothing masked. -/
theorem masked_ensureShipper (image : String) (organization : Organization) :
    Masked Eq (ensureShipper image organization) (ensureShipper image organization) := by
  refine (Platform.masked_appsByRole shipperRole organization.id).bind_eq fun shippers => ?_
  cases shippers with
  | nil =>
    refine (Platform.masked_createApp _ _ _ _).bind_eq fun shipper => ?_
    refine (masked_say _ _).bind_eq fun _ => ?_
    exact (masked_ensureMachine image shipper).bind_eq fun _ => .done rfl
  | cons shipper others =>
    refine Twin.bind_eq ?_ fun _ => .done rfl
    unfold warnOfMany
    split
    · exact .done rfl
    · exact masked_say _ _

/-! ## Steps with a token or secrets

  A token that is handed on becomes the value of a secret with a fixed key, and from there on it
  is hidden by the relation on calls. -/

/-- Here the two part: the tokens differ, and nothing is said of the values.  What is done depends
    only on whether there is a token at all. -/
theorem masked_tokenOf {addOn addOn' : AddOn} (h : addOn.Alike addOn') :
    Masked (fun _ _ => True) (tokenOf addOn) (tokenOf addOn') := by
  obtain ⟨-, hname, htoken⟩ := h
  unfold tokenOf
  by_cases hempty : addOn.token = ""
  · rw [if_pos hempty, if_pos (htoken.mp hempty), hname]
    exact .stop _
  · rw [if_neg hempty, if_neg fun hempty' => hempty (htoken.mpr hempty')]
    exact .done trivial

theorem masked_createAddOn (target : App) (slug : String) :
    Masked (fun _ _ => True) (createAddOn target slug) (createAddOn target slug) := by
  unfold createAddOn
  cases Provider.addOnType? slug with
  | none => exact .stop _
  | some addOnType =>
    refine (Platform.masked_createAddOn _ _ _ _).bind fun addOn addOn' h => ?_
    exact (masked_say _ _).bind_eq fun _ => masked_tokenOf h

/-- Whether an add-on is reused, created or given up does not depend on its token. -/
theorem masked_provisionAddOn (target : App) (slug : String) :
    Masked (fun _ _ => True) (provisionAddOn target slug) (provisionAddOn target slug) := by
  refine (Platform.masked_addOn (addOnName target.name)).attempt.bind fun found found' h => ?_
  cases h with
  | ok h => exact (masked_say _ _).bind_eq fun _ => masked_tokenOf h
  | error fault =>
    by_cases hkind : fault.kind = .notFound
    · simp only [settleAddOn, if_pos hkind]
      exact (masked_say _ _).bind_eq fun _ => masked_createAddOn target slug
    · simp only [settleAddOn, if_neg hkind]
      exact .stop fault

/-- **A token is issued and written without being looked at.**  It leaves the step as the value of a
    secret, so the two calls are alike. -/
theorem masked_writeCredential (shipper : App) :
    Masked Eq (writeCredential shipper) (writeCredential shipper) := by
  refine (Platform.masked_createToken _ _ _ _ _).bind fun token token' _ => ?_
  have hkeys : SameKeys [⟨tokenKey, token⟩] [⟨tokenKey, token'⟩] := rfl
  exact (Platform.masked_setSecrets shipper.id hkeys).bind_eq fun _ => masked_say _ _

/-- The provider's secrets are written without being looked at: what is noted of them is their
    keys. -/
theorem masked_writeSecrets (shipper : App) {secrets secrets' : List Secret}
    (h : SameKeys secrets secrets') :
    Masked Eq (writeSecrets shipper secrets) (writeSecrets shipper secrets') := by
  unfold writeSecrets
  by_cases hnil : secrets = []
  · rw [if_pos hnil, if_pos (h.eq_nil_iff.mp hnil)]
    exact .done rfl
  · rw [if_neg hnil, if_neg fun hnil' => hnil (h.eq_nil_iff.mpr hnil'), h]
    exact (Platform.masked_setSecrets shipper.id h).bind_eq fun _ => masked_say _ _

/-- Writing secrets with the same keys ends with the same keys. -/
theorem masked_setCredentialAndDeploy (shipper : App) {secrets secrets' : List Secret}
    (h : SameKeys secrets secrets') :
    Masked Eq (setCredentialAndDeploy shipper secrets)
      (setCredentialAndDeploy shipper secrets') := by
  refine (masked_writeCredential shipper).bind_eq fun _ => ?_
  refine (masked_writeSecrets shipper h).bind_eq fun _ => ?_
  refine (masked_redeploy shipper true).bind_eq fun restarted => ?_
  refine (masked_say _ _).bind_eq fun _ => .done ?_
  exact congrArg (tokenKey :: ·) h

end Setup

end LogDrain
