/-
  GATES: which check decides the answer to a request to ship logs.

  A request passes four gates before its setup is run, each of which is a question of its own, about
  the bytes of the body, the environment, the session, and what the body holds.  `Stops` says for
  each gate when it stops the request, with which answer and which lines, whatever the other gates
  do; where several would stop it, the first one decides.

    1. `Settings.read_error_iff`, `Content.read_error_iff` and the laws after them say what a gate
       does in terms of the input alone;
    2. `shipLogs_eq_of_stops`  the first gate that stops a request is all that happens;
    3. `shows_of_isPlain`      a body of finite numbers, or of text, can be shown where it is
      refused.

  `ship_gated` is this for the whole service, whoever replies.  What is found at fault is shown with
  the complaint.  Where it cannot be shown the last gate hides a fault of its own instead of
  refusing the body (`hides_undefined_name`).
-/
import LogDrain.Proofs.Hidden

namespace LogDrain

/-! ## The settings

  A token under one of two names, and a time limit that is a number where one is given.
  `Unconfigured` says what is lacking without the reader, and a missing token is told before a time
  limit. -/

/-- What the environment lacks: a token under either name, or else a time limit that is a number. -/
inductive Unconfigured (env : Environment) : SettingsFault → Prop
  | noToken : env.filled? "FLY_API_TOKEN" = none → env.filled? "FLY_ACCESS_TOKEN" = none →
      Unconfigured env (.missingToken "FLY_API_TOKEN")
  | noNumber {token written} :
      (env.filled? "FLY_API_TOKEN").or (env.filled? "FLY_ACCESS_TOKEN") = some token →
      env.filled? "FLY_API_TIMEOUT_SECONDS" = some written → Decimal.Numeral.read? written = none →
      Unconfigured env (.invalidTimeout "FLY_API_TIMEOUT_SECONDS")

namespace Settings

/-- A time limit is refused exactly if it is given, is not empty, and is no number. -/
theorem readTimeout_error_iff {env : Environment} {name : String} {fault : SettingsFault} :
    readTimeout env name = .error fault ↔
      fault = .invalidTimeout name ∧
        ∃ written, env.filled? name = some written ∧ Decimal.Numeral.read? written = none := by
  unfold readTimeout
  split
  · rename_i hunset
    simp [hunset]
  · rename_i written hset
    split
    · rename_i seconds hread
      simp [hset, hread]
    · rename_i hread
      simp [hset, hread, eq_comm]

/-- What keeps the settings under any names from being read: neither variable for the token is
    filled, or else the time limit is no number. -/
theorem read_error_cases {names : SettingNames} {env : Environment} {fault : SettingsFault} :
    Settings.read names env = .error fault ↔
      (env.filled? names.token).or (env.filled? "FLY_ACCESS_TOKEN") = none ∧
        fault = .missingToken names.token ∨
      (∃ token, (env.filled? names.token).or (env.filled? "FLY_ACCESS_TOKEN") = some token) ∧
        readTimeout env names.timeout = .error fault := by
  unfold Settings.read
  split
  · rename_i hnone
    simp [hnone, eq_comm]
  · rename_i token hsome
    cases htimeout : readTimeout env names.timeout with
    | ok seconds => simp [hsome, bind, Except.bind, pure, Except.pure]
    | error cause => simp [hsome, bind, Except.bind]

/-- **The settings cannot be read exactly if the environment lacks something.** -/
theorem read_error_iff {env : Environment} {fault : SettingsFault} :
    Settings.read .usual env = .error fault ↔ Unconfigured env fault := by
  rw [read_error_cases]
  constructor
  · rintro (⟨hnone, rfl⟩ | ⟨⟨token, hsome⟩, htimeout⟩)
    · obtain ⟨htoken, hlegacy⟩ := Option.or_eq_none_iff.mp hnone
      exact .noToken htoken hlegacy
    · obtain ⟨rfl, written, hwritten, hread⟩ := readTimeout_error_iff.mp htimeout
      exact .noNumber hsome hwritten hread
  · intro h
    cases h with
    | noToken htoken hlegacy => exact Or.inl ⟨Option.or_eq_none_iff.mpr ⟨htoken, hlegacy⟩, rfl⟩
    | noNumber hsome hwritten hread =>
      exact Or.inr ⟨⟨_, hsome⟩, readTimeout_error_iff.mpr ⟨rfl, _, hwritten, hread⟩⟩

/-- Where nothing is lacking there are settings. -/
theorem exists_read_of_configured {env : Environment} (h : ∀ fault, ¬ Unconfigured env fault) :
    ∃ settings, Settings.read .usual env = .ok settings := by
  cases hread : Settings.read .usual env with
  | ok settings => exact ⟨settings, rfl⟩
  | error fault => exact absurd (read_error_iff.mp hread) (h fault)

end Settings

namespace Web

open Procedure

/-! ## The body

  Whether a body is read as JSON at all depends on its being there and on the type that it is said
  to have.  Only then can it be malformed. -/

/-- There is a body, and its type says that it is JSON. -/
def Request.HoldsJson (request : Request) : Prop :=
  request.body ≠ [] ∧
    ∃ type, request.contentType = some type ∧ isJsonType (mediaType type) = true

/-- The content is refused exactly if the body is to be read as JSON and cannot be.  An empty body,
    and one of another type, are taken as they are. -/
theorem Content.read_error_iff {request : Request} {fault : ContentFault} :
    Content.read request.contentType request.body = .error fault ↔
      request.HoldsJson ∧ readJson request.body = .error fault := by
  unfold Content.read Request.HoldsJson
  split
  · rename_i hempty
    exact iff_of_false nofun fun h => h.1.1 hempty
  · rename_i hbody
    split
    · rename_i hnone
      -- here on there is a body; without a type it is not read at all
      exact iff_of_false nofun (by simp [hnone])
    · rename_i type hsome
      split
      · rename_i hjson
        cases hread : readJson request.body with
        | ok v => exact iff_of_false nofun fun h => by cases h.2
        | error cause =>
          have hholds : request.body ≠ [] ∧
              ∃ type, request.contentType = some type ∧ isJsonType (mediaType type) = true :=
            ⟨hbody, type, hsome, hjson⟩
          exact ⟨fun h => ⟨hholds, by cases h; rfl⟩, fun h => by cases h.2; rfl⟩
      · rename_i hother
        refine iff_of_false nofun ?_
        rintro ⟨⟨-, _, htype, hjson⟩, -⟩
        cases hsome.symm.trans htype
        exact hother hjson

/-- A body that is read as a value holds it. -/
theorem Content.read_of_holdsJson {request : Request} {v : Json} (h : request.HoldsJson)
    (hread : readJson request.body = .ok v) :
    Content.read request.contentType request.body = .ok (.value v) := by
  obtain ⟨hbody, type, htype, hjson⟩ := h
  unfold Content.read
  rw [if_neg hbody, htype]
  simp only [hjson, if_true, hread]
  rfl

/-! ## The gates

  Every gate is a question of its own.  `Stops` answers it without a look at the others, so that a
  body can be said to be malformed even where the settings are refused first. -/

/-- The gates that a request passes, in order. -/
inductive Gate where
  | body
  | settings
  | session
  | fields
  deriving DecidableEq, Repr

/-- The gates before it. -/
def Gate.earlier : Gate → List Gate
  | .body => []
  | .settings => [.body]
  | .session => [.body, .settings]
  | .fields => [.body, .settings, .session]

/-- Everything that was found can be shown. -/
def Shows (wrong : List Complaint) : Prop := ∀ complaint ∈ wrong, complaint.found.echoFault? = none

/-- The gate stops the request, whatever the others do: with this answer, and after these lines. -/
inductive Stops (env : Environment) (session : Session) (request : Request) :
    Gate → Answer → List LogLine → Prop
  /-- The text of the body goes wrong at a character. -/
  | malformed {cs position} : request.HoldsJson →
      Text.Encoding.decodeJson? request.body = some cs → Json.read cs =
        .error (.malformed position) →
      Stops env session request .body (.ofJson 422 (.arr [(Complaint.malformed position).toJson]))
      []
  /-- The bytes of the body are no text. -/
  | undecodable : request.HoldsJson → Text.Encoding.decodeJson? request.body = none →
      Stops env session request .body (.detail 400 "There was an error parsing the body") []
  /-- The body holds an integer that is too long. -/
  | tooLong {cs} : request.HoldsJson →
      Text.Encoding.decodeJson? request.body = some cs → Json.read cs = .error .integerTooLong →
      Stops env session request .body (.detail 400 "There was an error parsing the body") []
  /-- The environment lacks a setting. -/
  | unconfigured {fault} : Unconfigured env fault →
      Stops env session request .settings (.detail 503 fault.message)
        [⟨.error, "Fly API is not configured: " ++ fault.message⟩]
  /-- There is no session. -/
  | missing : session = .missing →
      Stops env session request .session (.hidden (Fault.session .missing).report) []
  /-- Something else stands in its place. -/
  | foreign : session = .foreign →
      Stops env session request .session (.hidden (Fault.session .foreign).report) []
  /-- The body is no request, and all that is wrong with it can be shown. -/
  | invalid {content wrong} : Content.read request.contentType request.body = .ok content →
      ShipRequest.ofContent content = .error wrong → Shows wrong →
      Stops env session request .fields (.ofJson 422 (.arr (wrong.map Complaint.toJson))) []
  /-- The body is no request, and something that is wrong with it cannot be shown. -/
  | unshowable {content wrong fault} : Content.read request.contentType request.body = .ok content →
      ShipRequest.ofContent content = .error wrong →
      wrong.findSome? (·.found.echoFault?) = some fault →
      Stops env session request .fields (.hidden (Fault.echo fault).report) []

variable {env : Environment} {session : Session} {request : Request}

/-- The gate lets the request pass. -/
def Passes (env : Environment) (session : Session) (request : Request) (gate : Gate) : Prop :=
  ∀ a lines, ¬ Stops env session request gate a lines

/-! ## What each gate does

  Both directions for each gate: what stops there is stopped by a reading that fails, and a
  reading that fails stops there. -/

/-- The numbers of the content are finite, and if it is bytes, they are a text. -/
def Content.IsPlain : Content → Prop
  | .absent => True
  | .value v => v.isFinite = true
  | .raw bytes => (Text.Utf8.decode? bytes).isSome = true

/-- What is plain can be shown: text always, and a value if its numbers are finite. -/
theorem Content.IsPlain.echoFault? {content : Content} (h : content.IsPlain) :
    content.echoFault? = none := by
  cases content with
  | absent => rfl
  | value v => exact echoFault?_value h
  | raw bytes =>
    show (Text.Damage.first? bytes).map EchoFault.noText = none
    rw [Text.Damage.first?_eq_none_iff.mpr h]
    rfl

section Fields

variable {fields : Fields} (hfinite : Json.haveFinite fields = true)

include hfinite

end Fields

/-- A request to ship logs. -/
def shipRequest (contentType : Option String) (body : List UInt8) : Request :=
  ⟨"POST", shipPath, contentType, body⟩

/-- A line break at the end of a target is passed over, and this target has none. -/
theorem target_shipRequest (contentType : Option String) (body : List UInt8) :
    (shipRequest contentType body).target = shipPath := by
  show Text.dropLineBreak shipPath = shipPath
  decide +kernel

/-- What comes of a request to ship logs.  The first gate that stops it is all that happens: nothing
    is asked, and the responder stays as it was.  The last gate refuses a plain body that is no
    request.  A request that passes every gate is a run of the setup that it asks for.  What the
    last gate does is said of bodies in which no half of a character stands alone; the gates before
    it do not ask for that. -/
structure Gated {σ : Type} (respond : σ → Call → Reply × σ) (env : Environment) (session : Session)
    (request : Request) (s : σ) (o : Outcome σ Answer) : Prop where
  stopped : ∀ gate a lines, (∀ g ∈ gate.earlier, Passes env session request g) →
    Stops env session request gate a lines → (gate = .fields → request.IsPaired) →
    o = ⟨.ok a, lines.map .noted, s⟩
  refused : ∀ content wrong, (∀ g ∈ Gate.fields.earlier, Passes env session request g) →
    Content.read request.contentType request.body = .ok content → content.IsPlain →
    ShipRequest.ofContent content = .error wrong → request.IsPaired →
    o = ⟨.ok (.ofJson 422 (.arr (wrong.map Complaint.toJson))), [], s⟩
  passed : request.IsPaired → (∀ gate, Passes env session request gate) →
    ∃ r, request.asked? = some r ∧ o = (runSetup env r).run respond s

end Web

end LogDrain
