/-
  THE ENDPOINT: the web service does what the setup does, and tells how it ended.

  A setup can be asked for directly or by a request to the service.  The request conveys the name of
  the app, the provider and the secrets in a JSON text, which is read, checked and completed before
  the setup is run; and how the setup ended is told by the class of the fault.

    1. `readJson_bodyOf`     a value is read from its own text, whatever the encoding might have
      been;
    2. `Conveys`             a request whose body is read as these arguments, such as the text that
                             is written for them (`conveys_written`), asks for them
                             (`Conveys.asked`);
    3. `answerTo`            the nearest of the classes that have an answer of their own decides;
    4. `ship_kind_ne_settings`  a setup never lacks a setting, so that the service notes nothing
      more.

  `endpoint_refines` says that the two ways do the same: the same calls get the same replies, the
  same lines are noted, and the responder is left in the same state.
-/
import LogDrain.Proofs.Bodies
import LogDrain.Proofs.Gates
import LogDrain.Proofs.Screening

namespace LogDrain

namespace Web

open Procedure

/-- **A value is read from its own text.** -/
theorem readJson_bodyOf {v : Json} (h : v.IsExact) : readJson (Cloud.bodyOf v) = .ok v := by
  unfold readJson Cloud.bodyOf
  rw [Text.Encoding.decodeJson?_encode (Json.inAscii_writeChars v h)]
  simp only [Json.read_writeChars h]

/-! ## Requests that convey arguments

  A request conveys arguments if its body is read as fields that give them.  The body may have
  more fields, in any order, and any of the encodings; nothing of this is left in the arguments. -/

/-- Texts as the fields of an object. -/
def textFields (values : List (String × String)) : Json := .obj (values.map fieldOf)

/-- The object has these arguments in its fields: no provider stands for null, and no secrets for an
    object without fields. -/
structure Gives (fields : Fields) (r : ShipRequest) : Prop where
  appName : fields.lookup "app_name" = some (.str r.appName)
  provider : (fields.lookup "provider").getD .null = .ofText? r.provider
  secrets : (fields.lookup "secrets").getD (.obj []) = textFields r.secrets

/-- The request is one to ship logs, and its body is read as an object with these arguments; no half
    of a character stands alone in it. -/
structure Conveys (request : Request) (r : ShipRequest) : Prop where
  target : request.target = shipPath
  method : request.method = "POST"
  holdsJson : request.HoldsJson
  paired : request.IsPaired
  gives : ∃ fields, readJson request.body = .ok (.obj fields) ∧ Gives fields r

/-- Texts are read as they are, one after the other, and there is nothing to complain of. -/
theorem readValues_map_fieldOf : ∀ values : List (String × String),
    ShipRequest.readValues (values.map fieldOf) = .ok values
  | [] => rfl
  | (key, text) :: values => by
    have hrest := readValues_map_fieldOf values
    show ShipRequest.readValues ((key, .str text) :: values.map fieldOf) = _
    unfold ShipRequest.readValues
    rw [hrest]

namespace Gives

variable {fields : Fields} {r : ShipRequest}

theorem readAppName_eq (h : Gives fields r) (happ : r.appName ≠ "") :
    ShipRequest.readAppName fields = .ok r.appName := by
  unfold ShipRequest.readAppName ShipRequest.given?
  rw [h.appName]
  exact if_neg happ

/-- The provider is read from its field; a field that is left out and one that is null come to the
    same. -/
theorem readProvider_eq (h : Gives fields r) :
    ShipRequest.readProvider fields = .ok r.provider := by
  have hgiven := h.provider
  unfold ShipRequest.readProvider ShipRequest.given?
  cases hlookup : fields.lookup "provider" with
  | none =>
    rw [hlookup] at hgiven
    cases hr : r.provider with
    | none => rfl
    | some slug =>
      rw [hr] at hgiven
      cases hgiven
  | some v =>
    rw [hlookup] at hgiven
    obtain rfl : v = Json.ofText? r.provider := hgiven
    cases r.provider <;> rfl

/-- The secrets are read from their field, and a field that is left out stands for none. -/
theorem readSecrets_eq (h : Gives fields r) : ShipRequest.readSecrets fields = .ok r.secrets := by
  have hgiven := h.secrets
  unfold ShipRequest.readSecrets ShipRequest.given?
  cases hlookup : fields.lookup "secrets" with
  | none =>
    rw [hlookup] at hgiven
    have hnone : [] = r.secrets.map fieldOf := Json.obj.inj hgiven
    rw [List.map_eq_nil_iff.mp hnone.symm]
  | some v =>
    rw [hlookup] at hgiven
    obtain rfl : v = textFields r.secrets := hgiven
    exact readValues_map_fieldOf r.secrets

/-- **An object with arguments is the request for them.** -/
theorem ofFields_eq (h : Gives fields r) (happ : r.appName ≠ "") :
    ShipRequest.ofFields fields = .ok r := by
  unfold ShipRequest.ofFields
  rw [h.readAppName_eq happ, h.readProvider_eq, h.readSecrets_eq]

end Gives

/-- **A request that conveys arguments asks for them.** -/
theorem Conveys.asked {request : Request} {r : ShipRequest} (h : Conveys request r)
    (happ : r.appName ≠ "") : request.asked? = some r := by
  obtain ⟨fields, hread, hgives⟩ := h.gives
  unfold Request.asked?
  rw [Content.read_of_holdsJson h.holdsJson hread]
  show (ShipRequest.ofFields fields).toOption = some r
  rw [hgives.ofFields_eq happ]
  rfl

/-! ## The text that is written for arguments

  One way to convey them, which shows that there is one for all arguments: the text of an object
  that is written for them. -/

/-- The fields of a body; a provider may be left out, or be null. -/
def bodyFields (appName : String) (provider : Option (Option String))
    (secrets : List (String × String)) : Fields :=
  ("app_name", .str appName) ::
    ((provider.toList.map fun given => ("provider", Json.ofText? given)) ++
      [("secrets", textFields secrets)])

/-- A request to ship logs with the text of these fields. -/
def written (appName : String) (provider : Option (Option String))
    (secrets : List (String × String)) : Request :=
  shipRequest (some "application/json") (Cloud.bodyOf (.obj (bodyFields appName provider secrets)))

theorem gives_bodyFields (appName : String) (provider : Option (Option String))
    (secrets : List (String × String)) :
    Gives (bodyFields appName provider secrets) ⟨appName, provider.join, secrets⟩ := by
  cases provider <;> exact ⟨rfl, rfl, rfl⟩

/-- The body can be written and read back, if no key is given twice: a JSON object could not keep
    both. -/
theorem isExact_bodyFields {appName : String} {provider : Option (Option String)}
    {secrets : List (String × String)} (hkeys : (secrets.map Prod.fst).Nodup) :
    (Json.obj (bodyFields appName provider secrets)).IsExact := by
  have hsecrets : (textFields secrets).IsExact := by
    rw [textFields, Json.IsExact, List.map_map]
    exact ⟨hkeys, haveExact_map_fieldOf secrets⟩
  cases provider with
  | none => simp [bodyFields, Json.IsExact, Json.HaveExact, hsecrets]
  | some given => simp [bodyFields, Json.IsExact, Json.HaveExact, hsecrets, Json.isExact_ofText?]

/-- **The text of the arguments conveys them.** -/
theorem conveys_written (appName : String) (provider : Option (Option String))
    {secrets : List (String × String)} (hkeys : (secrets.map Prod.fst).Nodup) :
    Conveys (written appName provider secrets) ⟨appName, provider.join, secrets⟩ where
  target := target_shipRequest _ _
  method := rfl
  holdsJson := ⟨Cloud.bodyOf_ne_nil _, _, rfl, by decide +kernel⟩
  paired := Request.isPaired_of_bodyOf rfl (isExact_bodyFields hkeys)
  gives := ⟨_, readJson_bodyOf (isExact_bodyFields hkeys),
    gives_bodyFields appName provider secrets⟩

/-! ## How it ended

  A fault has classes, from the nearest to the widest, and an answer of its own for some of them.
  The first class that has one decides, so a fault of an API that was not found is told as not
  found. -/

/-- The classes of faults that have an answer of their own. -/
inductive Told where
  | answers
  | addOnType
  | notFound
  | api
  | settings
  deriving DecidableEq, Repr

/-- The status of that answer. -/
def Told.status : Told → Nat
  | .answers | .addOnType => 400
  | .notFound => 404
  | .api => 502
  | .settings => 503

/-- Those of the classes that a kind of fault belongs to, the nearest first.  What was not found is
    a fault of the API as well, and so is a fault of the Machines API; many kinds belong to none. -/
def classes : FaultKind → List Told
  | .answers => [.answers]
  | .addOnType => [.addOnType]
  | .notFound => [.notFound, .api]
  | .api | .machines => [.api]
  | .settings => [.settings]
  | _ => []

/-- The answer to what came of a setup: its summary, or the words of the fault under the status of
    the nearest class, or the answer that hides a fault of no class. -/
def answerTo : Except Fault Setup.Summary → Answer
  | .ok summary => .ofJson 200 (summaryJson summary)
  | .error fault =>
    match classes fault.kind with
    | nearest :: _ => .detail nearest.status fault.message
    | [] => .hidden fault.report

/-- No class of faults is told as a success. -/
theorem Told.status_ne (told : Told) : told.status ≠ 200 := by
  cases told <;> decide

/-- **Success is told by 200, and nothing else is.** -/
theorem status_answerTo {result : Except Fault Setup.Summary} :
    (answerTo result).status = 200 ↔ ∃ summary, result = .ok summary := by
  cases result with
  | ok summary => exact iff_of_true rfl ⟨summary, rfl⟩
  | error fault =>
    refine iff_of_false ?_ nofun
    unfold answerTo
    simp only []
    split
    · rename_i nearest _ _
      exact nearest.status_ne
    · show ¬ 500 = 200
      decide

/-- Unless a setting is lacking, this is what the service concludes. -/
theorem conclude_eq {result : Except Fault Setup.Summary}
    (h : ∀ fault, result = .error fault → fault.kind ≠ .settings) :
    conclude result = .done (answerTo result) := by
  cases result with
  | ok summary => rfl
  | error fault =>
    have hkind := h fault rfl
    show refuse fault.report = _
    unfold refuse answerTo
    simp only [Fault.report]
    cases hclass : fault.kind <;> first | rfl | exact absurd hclass hkind

/-- **A setup never lacks a setting.** -/
theorem ship_kind_ne_settings {image appName : String} {answers : Answers} {xs : List Exchange}
    {r : Except Fault Setup.Summary} (h : Setup.ShipCourse image appName answers xs r) :
    ∀ fault, r = .error fault → fault.kind ≠ .settings := by
  intro fault hr hkind
  cases h.screened with
  | unfound _ hout =>
    cases hr
    exact hout.not_isInward (Or.inl (by simp [hkind]))
  | refused =>
    cases hr
    cases hkind
  | passed _ _ hends => exact hends.not_isInward hr (Or.inl (by simp [hkind]))

/-! ## The whole -/

/-- The service did what the setup did: it went through the same and left the same.  If no reply on
    the way names half of a character alone, its answer tells how the setup ended, with 200 exactly
    if it ended well. -/
structure Refines {σ : Type} (told : Outcome σ Answer) (run : Outcome σ Setup.Summary) : Prop where
  trace : told.trace = run.trace
  state : told.state = run.state
  result : (∀ x ∈ run.exchanges, x.2.IsPaired) → told.result = .ok (answerTo run.result)
  succeeds_iff : (answerTo run.result).status = 200 ↔ ∃ summary, run.result = .ok summary

/-- A request that asks for a setup is a run of it, with the same exchanges, lines and state, and an
    answer made of its result. -/
theorem refines_of_asks {σ : Type} (respond : σ → Call → Reply × σ) {env : Environment}
    {request : Request} {r : ShipRequest} (h : Asks env request r) (s : σ) :
    Refines ((answer env .ready request).run respond s)
      ((Setup.ship (Setup.shipperImage env) r.appName (.of r.provider r.secrets)).run respond
        s) := by
  have hcourse := Setup.shipCourse_of_run respond (Setup.shipperImage env) r.appName
    (.of r.provider r.secrets) s
  rw [h.run_of_conclude respond rfl (conclude_eq (ship_kind_ne_settings hcourse))]
  exact ⟨rfl, rfl, fun _ => rfl, status_answerTo⟩

/-- **The endpoint does what the setup does**, for every request that conveys the arguments, such as
    the one with their text, whoever replies. -/
theorem endpoint_refines {σ : Type} (respond : σ → Call → Reply × σ) {env : Environment}
    (hconfigured : ∀ fault, ¬ Unconfigured env fault) {appName : String} (happ : appName ≠ "")
    (provider : Option (Option String)) {secrets : List (String × String)}
    (hkeys : (secrets.map Prod.fst).Nodup) (s : σ) :
    let r : ShipRequest := ⟨appName, provider.join, secrets⟩
    let run := (Setup.ship (Setup.shipperImage env) appName (.of provider.join secrets)).run respond
      s
    Conveys (written appName provider secrets) r ∧
      ∀ request, Conveys request r → Refines ((answer env .ready request).run respond s) run := by
  intro r run
  refine ⟨conveys_written appName provider hkeys, fun request hconveys => ?_⟩
  have hasks : Asks env request r :=
    { configured := Settings.exists_read_of_configured hconfigured
      target := hconveys.target
      method := hconveys.method
      asked := hconveys.asked happ }
  exact refines_of_asks respond hasks s

open Setup.Textual in
/-- A provider that is null, and a secret: nothing is answered, and the same fault is told. -/
theorem refines_null_provider :
    (∀ fault, ¬ Unconfigured env fault) ∧ "acme-web" ≠ "" ∧
      ([("DATADOG_API_KEY", "é\n")].map Prod.fst).Nodup ∧
      Conveys (written "acme-web" (some none) [("DATADOG_API_KEY", "é\n")])
        ⟨"acme-web", none, [("DATADOG_API_KEY", "é\n")]⟩ ∧
      Refines
        ((answer env .ready (written "acme-web" (some none) [("DATADOG_API_KEY", "é\n")])).run
          nextReply [])
        ((Setup.ship (Setup.shipperImage env) "acme-web"
          (.of none [("DATADOG_API_KEY", "é\n")])).run nextReply []) := by
  have hconfigured : ∀ fault, ¬ Unconfigured env fault := by
    intro fault hlacks
    have hsome : (Settings.read .usual env).toOption.isSome = true := by decide +kernel
    rw [Settings.read_error_iff.mpr hlacks] at hsome
    cases hsome
  have happ : "acme-web" ≠ "" := by decide
  have hkeys : ([("DATADOG_API_KEY", "é\n")].map Prod.fst).Nodup := by decide
  obtain ⟨hconveys, hrefines⟩ := endpoint_refines nextReply hconfigured happ (some none) hkeys []
  exact ⟨hconfigured, happ, hkeys, hconveys, hrefines _ hconveys⟩

/-! ## A token without a time limit that is a number

  The time limit is read together with the token, so the service can lack a setting that the setup
  by itself, which is handed its settings, never misses. -/

/-- **A token is not enough**: where the time limit is no number, the service asks nothing and says
    that it is not configured, while the setup would ask for the app. -/
theorem refuses_worded_timeout :
    let env := Environment.ofPairs [("FLY_API_TOKEN", "tok"), ("FLY_API_TIMEOUT_SECONDS", "soon")]
    let told := (answer env .ready (written "acme-web" (some (some "logtail")) [])).run nextReply []
    let run := (Setup.ship (Setup.shipperImage env) "acme-web" (.of (some "logtail") [])).run
      nextReply []
    env.filled? "FLY_API_TOKEN" = some "tok" ∧
      (written "acme-web" (some (some "logtail")) []).asked? =
        some ⟨"acme-web", some "logtail", []⟩ ∧
      run.calls.length = 1 ∧ run.result = .error (.api .unreachable) ∧
      told.calls.length = 0 ∧ told.result.toOption.map (·.status) = some 503 :=
  ⟨by decide +kernel, by decide +kernel, by decide +kernel, by decide +kernel, by decide +kernel,
    by decide +kernel⟩

end Web

end LogDrain
