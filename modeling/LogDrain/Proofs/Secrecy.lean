/-
  SECRECY: what can be seen of a setup does not depend on the secrets that it handles.

  A setup handles secrets of three kinds: the access token of its settings, the tokens in the
  replies, and the values in the answers.  Two setups of the same app are compared that differ in
  these alone:

    * `Environment.Alike`  the variables are the same, but for filled ones that hold the access
      token;
    * `Reply.Alike`        the replies are the same, but for a token in its place;
    * `Answers.Alike`      the choice and the keys are the same, and the same values are blank.

  An `Observation` is all that leaves a setup: its result, its lines of every level, its requests,
  and how many replies it did not use.  `observe_conceals` says that the two observations are the
  same, except that requests are the same but for the value of the `Authorization` header and the
  values of secrets that are written (`Request.Alike`).  So no secret gets into a line, a message,
  an address, or another request.
-/
import LogDrain.Proofs.Cloud
import LogDrain.Proofs.Collected
import LogDrain.Proofs.Masked
import LogDrain.Remote.Request

namespace LogDrain

open Procedure

/-! ## Answers

  Answers that differ in values only are chosen, refused and collected alike.  A value is looked
  at in one way alone, for being blank, and this is the same in both. -/

/-- The answers make the same choice, have the same keys in any order, and are blank for the same
    keys. -/
structure Answers.Alike (answers answers' : Answers) : Prop where
  choice : answers.choice = answers'.choice
  keys : (answers.values.map (·.1)).Perm (answers'.values.map (·.1))
  filled : ∀ key, answers.isFilled key = answers'.isFilled key

/-- Texts are put in the same order however they are given. -/
theorem sortTexts_perm {texts texts' : List String} (h : texts.Perm texts') :
    sortTexts texts = sortTexts texts' := by
  rw [sortTexts_eq_insertionSort, sortTexts_eq_insertionSort]
  have hperm := (texts.perm_insertionSort (· ≤ ·)).trans
    (h.trans (texts'.perm_insertionSort (· ≤ ·)).symm)
  exact hperm.eq_of_pairwise' (texts.pairwise_insertionSort _) (texts'.pairwise_insertionSort _)

namespace Answers.Alike

variable {answers answers' : Answers}

/-- The same provider is chosen: of the answers, only the choice is looked at. -/
theorem select (h : answers.Alike answers') (offer : List Provider) :
    answers.select offer = answers'.select offer := by
  unfold Answers.select
  rw [h.choice]

theorem unexpected (h : answers.Alike answers') (provider : Provider) :
    answers.unexpected provider = answers'.unexpected provider :=
  sortTexts_perm (h.keys.filter _)

/-- The same variables are missing, since a value counts as missing when it is blank. -/
theorem missing (h : answers.Alike answers') (provider : Provider) :
    answers.missing provider = answers'.missing provider := by
  unfold Answers.missing
  simp only [h.filled]

theorem collectedVars (h : answers.Alike answers') (provider : Provider) :
    answers.collectedVars provider = answers'.collectedVars provider := by
  unfold Answers.collectedVars
  rw [funext h.filled]

/-- **What is collected has the same keys**, or is refused in the same words. -/
theorem collect (h : answers.Alike answers') (provider : Provider) :
    Matched SameKeys (answers.collect provider) (answers'.collect provider) := by
  unfold Answers.collect
  rw [h.unexpected, h.missing, h.collectedVars]
  split
  · exact .error _
  split
  · exact .error _
  · refine .ok ?_
    rw [SameKeys, map_key_mk, map_key_mk]

end Answers.Alike

/-! ## The whole setup

  The setup as a twin of itself: the steps of the last module in a row, and the secrets of the
  provider between them. -/

/-- Results that match still do when their faults are turned into others. -/
theorem Matched.mapError {ε ε' α : Type} {V : α → α → Prop} {e e' : Except ε α} (f : ε → ε')
    (h : Matched V e e') : Matched V (e.mapError f) (e'.mapError f) := by
  cases h with
  | ok h => exact .ok h
  | error fault => exact .error (f fault)

namespace Setup

variable {answers answers' : Answers}

/-- **The provider's secrets are got without being looked at**: for an automatic provider the
    add-on's token, otherwise what was collected, with the same keys either way. -/
theorem masked_providerSecrets (target : App) (provider : Provider) (h : answers.Alike answers') :
    Masked SameKeys (providerSecrets target provider answers)
      (providerSecrets target provider answers') := by
  unfold providerSecrets
  split
  · refine (masked_provisionAddOn target provider.slug).bind fun token token' _ => .done ?_
    rw [SameKeys, map_key_mk, map_key_mk]
  · exact .ofExcept ((h.collect provider).mapError Fault.answers)

/-- **Setups whose answers are alike** are masked twins, with equal summaries. -/
theorem masked_ship (image appName : String) (h : answers.Alike answers') :
    Masked Eq (ship image appName answers) (ship image appName answers') := by
  refine (Platform.masked_app appName).bind_eq fun target => ?_
  rw [h.select]
  refine Twin.bind_eq (.of_silent Eq.refl (silent_ofExcept _)) fun provider => ?_
  refine (masked_say _ _).bind_eq fun _ => ?_
  refine (masked_providerSecrets target provider h).bind fun secrets secrets' hkeys => ?_
  refine (masked_ensureShipper image target.organization).bind_eq fun shipper => ?_
  refine (masked_say _ _).bind_eq fun _ => ?_
  refine (masked_ensureMachine image shipper).bind_eq fun _ => ?_
  exact (masked_setCredentialAndDeploy shipper hkeys).bind_eq fun _ => .done rfl

end Setup

/-! ## Environments and settings

  Every name but the two for the token is free of secrets.  Of these two it matters whether they
  are filled, and this is the same in both environments. -/

/-- The variables that can hold the access token. -/
def accessTokenNames : List String := [SettingNames.usual.token, "FLY_ACCESS_TOKEN"]

/-- The variables have the same values, except that one for the access token has two that are
    filled. -/
def Environment.Alike (env env' : Environment) : Prop :=
  ∀ name, env name = env' name ∨
    name ∈ accessTokenNames ∧ (env.filled? name).isSome ∧ (env'.filled? name).isSome

/-- The settings are the same but for the access token. -/
def Settings.Alike (settings settings' : Settings) : Prop :=
  ∃ token, settings' = { settings with accessToken := token }

namespace Environment.Alike

variable {env env' : Environment}

/-- A variable that does not hold the token is the same in both environments. -/
theorem eq_of_notMem (h : env.Alike env') {name : String} (hname : name ∉ accessTokenNames) :
    env name = env' name := by
  rcases h name with heq | ⟨hmem, -⟩
  · exact heq
  · exact absurd hmem hname

/-- The variables that hold the token are filled in both environments or in neither. -/
theorem isSome_filled? (h : env.Alike env') (name : String) :
    (env.filled? name).isSome = (env'.filled? name).isSome := by
  rcases h name with heq | ⟨-, hfilled, hfilled'⟩
  · unfold Environment.filled?
    rw [heq]
  · rw [hfilled, hfilled']

theorem filled?_eq (h : env.Alike env') {name : String} (hname : name ∉ accessTokenNames) :
    env.filled? name = env'.filled? name := by
  unfold Environment.filled?
  rw [h.eq_of_notMem hname]

theorem shipperImage (h : env.Alike env') : Setup.shipperImage env = Setup.shipperImage env' := by
  unfold Setup.shipperImage
  rw [h.eq_of_notMem (by decide)]

theorem logThreshold (h : env.Alike env') : env.logThreshold = env'.logThreshold := by
  unfold Environment.logThreshold
  rw [h.eq_of_notMem (by decide)]

/-- **The same settings are read**, but for the token, or the same one is found lacking. -/
theorem settings (h : env.Alike env') :
    Matched Settings.Alike (Settings.read .usual env) (Settings.read .usual env') := by
  -- whether there is a token is the same, and everything else is equal
  have htokens :
      ((env.filled? SettingNames.usual.token).or (env.filled? "FLY_ACCESS_TOKEN")).isSome =
        ((env'.filled? SettingNames.usual.token).or (env'.filled? "FLY_ACCESS_TOKEN")).isSome := by
    rw [Option.isSome_or, Option.isSome_or, h.isSome_filled?, h.isSome_filled?]
  have htimeout : Settings.readTimeout env SettingNames.usual.timeout =
      Settings.readTimeout env' SettingNames.usual.timeout := by
    unfold Settings.readTimeout
    rw [h.filled?_eq (by decide)]
  have hbase : ∀ name fallback, name ∉ accessTokenNames →
      Settings.readBase env name fallback = Settings.readBase env' name fallback := by
    intro name fallback hname
    unfold Settings.readBase
    rw [h.filled?_eq hname]
  unfold Settings.read
  rw [htimeout, hbase _ _ (by decide : SettingNames.usual.apiBase ∉ accessTokenNames),
    hbase _ _ (by decide : SettingNames.usual.machinesBase ∉ accessTokenNames)]
  generalize (env.filled? _).or _ = token, (env'.filled? _).or _ = token' at htokens
  -- so both are refused for their token, or both go on to the time limit
  cases token with
  | none =>
    cases token' with
    | none => exact .error _
    | some token' => cases htokens
  | some token =>
    cases token' with
    | none => cases htokens
    | some token' =>
      cases Settings.readTimeout env' SettingNames.usual.timeout with
      | error fault => exact .error fault
      | ok timeout => exact .ok ⟨_, rfl⟩

end Environment.Alike

/-! ## Requests

  From calls to what leaves the machine.  The token of the settings is in one header, and secrets
  are in the body of one kind of request; addresses and all other bodies are made of what is
  equal. -/

/-- The headers are equal, or both say who asks. -/
def HeaderAlike (header header' : String × String) : Prop :=
  header = header' ∨ header.1 = "Authorization" ∧ header'.1 = "Authorization"

/-- The bodies are equal, or write secrets with the same keys to the same app. -/
def WrittenAlike (body body' : Option String) : Prop :=
  body = body' ∨ ∃ appId secrets secrets', SameKeys secrets secrets' ∧
    body = some (Query.setSecrets appId secrets).toJson.write ∧
    body' = some (Query.setSecrets appId secrets').toJson.write

/-- The requests are the same but for the value that says who asks, and the values of secrets
    written. -/
structure Request.Alike (request request' : Request) : Prop where
  method : request.method = request'.method
  url : request.url = request'.url
  params : request.params = request'.params
  timeout : request.timeout = request'.timeout
  headers : List.Forall₂ HeaderAlike request.headers request'.headers
  body : WrittenAlike request.body request'.body

/-- Calls that are alike make requests that are alike. -/
theorem Call.Alike.request {call call' : Call} (h : call.Alike call')
    {settings settings' : Settings} (hsettings : settings.Alike settings') :
    (call.request settings).Alike (call'.request settings') := by
  obtain ⟨token, rfl⟩ := hsettings
  have hwho : HeaderAlike settings.authorization
      ({ settings with accessToken := token } : Settings).authorization := Or.inr ⟨rfl, rfl⟩
  have hrest : ∀ headers, List.Forall₂ HeaderAlike headers headers :=
    fun headers => List.forall₂_same.mpr fun _ _ => Or.inl rfl
  rcases h with rfl | ⟨appId, secrets, secrets', hkeys, rfl, rfl⟩
  · cases call with
    | query q => exact ⟨rfl, rfl, rfl, rfl, .cons hwho (hrest _), Or.inl rfl⟩
    | machines app call => exact ⟨rfl, rfl, rfl, rfl, .cons hwho (hrest _), Or.inl rfl⟩
  · exact ⟨rfl, rfl, rfl, rfl, .cons hwho (hrest _),
      Or.inr ⟨appId, secrets, secrets', hkeys, rfl, rfl⟩⟩

/-! ## What can be seen

  All of it in one record, so that the statement does not depend on who looks at what. -/

namespace Setup

/-- What leaves a setup. -/
structure Observation where
  result : Except Fault Summary
  lines : List LogLine
  threshold : LogLevel
  requests : List Request
  unused : Nat

/-- What can be seen of the setup of an app, with a queue of replies. -/
def observe (env : Environment) (replies : List Reply) (appName : String) (answers : Answers) :
    Except SettingsFault Observation := do
  let settings ← Settings.read .usual env
  let outcome := (ship (shipperImage env) appName answers).run nextReply replies
  return { result := outcome.result, lines := outcome.lines, threshold := env.logThreshold
           requests := outcome.calls.map (Call.request settings), unused := outcome.state.length }

/-- The observations are the same, but for secrets in requests. -/
structure Observation.Alike (o o' : Observation) : Prop where
  result : o.result = o'.result
  lines : o.lines = o'.lines
  threshold : o.threshold = o'.threshold
  requests : List.Forall₂ Request.Alike o.requests o'.requests
  unused : o.unused = o'.unused

/-- **What can be seen of a setup** does not depend on secrets: with other ones, the same setting is
    lacking, or the observations are the same, but for the secrets in requests. -/
theorem observe_conceals {env env' : Environment} {replies replies' : List Reply}
    {answers answers' : Answers} (appName : String) (henv : env.Alike env')
    (hreplies : List.Forall₂ Reply.Alike replies replies') (hanswers : answers.Alike answers') :
    Matched Observation.Alike (observe env replies appName answers)
      (observe env' replies' appName answers') := by
  have hlost : (Reply.lost .client).Alike (.lost .client) := Or.inl rfl
  have hrun := (masked_ship (shipperImage env) appName hanswers).run
    (nextReply_alike Call.Alike hlost) hreplies
  unfold observe
  rw [← henv.shipperImage, ← henv.logThreshold]
  have hsettings := henv.settings
  generalize Settings.read .usual env = e, Settings.read .usual env' = e' at hsettings
  cases hsettings with
  | error fault => exact .error fault
  | ok hsettings =>
    refine .ok ⟨hrun.result.eq, hrun.lines, rfl, ?_, hrun.state.length_eq⟩
    rw [List.forall₂_map_left_iff, List.forall₂_map_right_iff]
    exact hrun.calls.imp fun _ _ hcall => hcall.request hsettings

/-! ## A setup with two sets of secrets

  A setup that writes a token and a secret, with two access tokens, two issued tokens and two
  answers. -/

namespace Disguised

def target : App := ⟨"app_web", "acme-web", ⟨"org_acme", "acme", "acme"⟩⟩

def shipper : App := ⟨"app_s", "acme-auto-log-shipper", ⟨"org_acme", "acme", "acme"⟩⟩

def machine : Machine := ⟨"m_1", none, some "started", some "ord", none⟩

/-- The reply with an issued token. -/
def issued (token : String) : Reply :=
  Cloud.dataReply
    [("createLimitedAccessToken", .obj [("limitedAccessToken", .obj [("token", .str token)])])]

/-- The shipper and its machine are there. -/
def replies (token : String) : List Reply :=
  [Cloud.dataReply [("app", target.toJson)],
   Cloud.dataReply [("apps", .obj [("nodes", .arr [shipper.toJson])])],
   Cloud.jsonReply (.arr [machine.toJson]),
   issued token,
   Cloud.dataReply [],
   Cloud.dataReply [],
   Cloud.jsonReply (.arr [machine.toJson]),
   Cloud.jsonReply (.obj [])]

def env (token : String) : Environment := .ofPairs [("FLY_API_TOKEN", token)]

def answers (key : String) : Answers := .of (some "datadog") [("DATADOG_API_KEY", key)]

/-- Two replies that issue a token are alike, whatever the tokens. -/
theorem issued_alike {token token' : String} (h : token ≠ "") (h' : token' ≠ "") :
    (issued token).Alike (issued token') := by
  have hexact : ∀ t, (Json.obj [("data", .obj [("createLimitedAccessToken",
      .obj [("limitedAccessToken", .obj [("token", .str t)])])])]).IsExact := by
    intro t
    simp [Json.IsExact, Json.HaveExact]
  refine Or.inr ⟨_, _, rfl, rfl, ["createLimitedAccessToken", "limitedAccessToken", "token"],
    by decide, _, _, Cloud.parse?_bodyOf (hexact token), Cloud.parse?_bodyOf (hexact token'), ?_⟩
  exact .field (.field (.field (.field (.text h h'))))

/-- Two environments that have nothing but a token are alike, if both have one. -/
theorem env_alike {token token' : String} (h : token ≠ "") (h' : token' ≠ "") :
    (env token).Alike (env token') := by
  intro name
  by_cases hname : name = "FLY_API_TOKEN"
  · subst hname
    refine Or.inr ⟨by decide, ?_, ?_⟩
    · simp [Environment.filled?, env, Environment.ofPairs, h]
    · simp [Environment.filled?, env, Environment.ofPairs, h']
  · have hother : (name == "FLY_API_TOKEN") = false := beq_false_of_ne hname
    refine Or.inl ?_
    simp only [env, Environment.ofPairs, List.lookup_cons, List.lookup_nil, hother]

end Disguised

open Disguised in
/-- Another access token, another token issued and another key: the setup ends well all the same,
    and looks the same. -/
theorem concealed_two_sets :
    ((env "alpha").Alike (env "beta") ∧
      List.Forall₂ Reply.Alike (replies "read_1") (replies "read_2") ∧
      (answers "key_1").Alike (answers "key_2")) ∧
    ((observe (env "alpha") (replies "read_1") "acme-web" (answers "key_1")).toOption.bind
      (·.result.toOption)).map (·.secretsWritten) = some ["NATS_TOKEN", "DATADOG_API_KEY"] ∧
    Matched Observation.Alike
      (observe (env "alpha") (replies "read_1") "acme-web" (answers "key_1"))
      (observe (env "beta") (replies "read_2") "acme-web" (answers "key_2")) := by
  have henv : (env "alpha").Alike (env "beta") := env_alike (by decide) (by decide)
  have hreplies : List.Forall₂ Reply.Alike (replies "read_1") (replies "read_2") :=
    .cons (Or.inl rfl) (.cons (Or.inl rfl) (.cons (Or.inl rfl)
      (.cons (issued_alike (by decide) (by decide)) (.cons (Or.inl rfl) (.cons (Or.inl rfl)
        (.cons (Or.inl rfl) (.cons (Or.inl rfl) .nil)))))))
  have hanswers : (answers "key_1").Alike (answers "key_2") := by
    refine ⟨rfl, .refl _, fun key => ?_⟩
    by_cases hkey : key = "DATADOG_API_KEY"
    · subst hkey
      decide +kernel
    · have hother : (key == "DATADOG_API_KEY") = false := beq_false_of_ne hkey
      simp only [Answers.isFilled, Answers.value, answers, Answers.of, List.lookup_cons,
        List.lookup_nil, hother]
  refine ⟨⟨henv, hreplies, hanswers⟩, ?_, observe_conceals "acme-web" henv hreplies hanswers⟩
  decide +kernel

end Setup

end LogDrain
