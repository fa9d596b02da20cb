/-
  BODIES OF REQUESTS: what was given is what arrives.

  A request carries one text, and the remote side knows nothing but that.  Three things are said of
  it, for texts of any characters and secrets of any number:

    1. it is in printable ASCII (`inAscii_writeChars`), so nothing depends on how it is encoded;
    2. it is read as one value, which is an object of the document and the variables, or the launch
       (`Carries`).  The document is a fixed text for each kind of operation;
    3. from that value everything can be taken out again that was given.  `Query.ofVariables?` and
       `Launch.ofJson?` do it.  They are written down without a look at how values are made, and
       accept an object only with exactly the fields that they name, in order.

  What is taken out is not always what was given: an app that is created with the empty role is
  created without one (`Query.plain`), and metadata are a dictionary, where a key that is given
  twice keeps its first place and its last value (`Launch.plain`).  Up to these two, equal bodies
  come from equal inputs.

  `bodies_faithful` has all of it, for every operation that sends a body.
-/
import LogDrain.Proofs.Misread
import LogDrain.Proofs.ReadBack
import LogDrain.Proofs.Sequence
import LogDrain.Remote.Request

namespace LogDrain

/-! ## Printable ASCII

  Every character beyond printable ASCII is escaped when a text is written.  So the characters of
  a body are its bytes, and the law is one recursion on the value. -/

namespace Json

/-- All characters are printable ones of ASCII. -/
def InAscii (cs : List Char) : Prop := ∀ c ∈ cs, 0x20 ≤ c.toNat ∧ c.toNat < 0x7F

instance (cs : List Char) : Decidable (InAscii cs) :=
  List.decidableBAll (fun c : Char => 0x20 ≤ c.toNat ∧ c.toNat < 0x7F) cs

theorem InAscii.append {cs ds : List Char} (hc : InAscii cs) (hd : InAscii ds) :
    InAscii (cs ++ ds) :=
  List.forall_mem_append.mpr ⟨hc, hd⟩

theorem InAscii.cons {c : Char} {cs : List Char} (hc : InAscii [c]) (h : InAscii cs) :
    InAscii (c :: cs) := hc.append h

theorem inAscii_of_isDigit {cs : List Char} (h : ∀ c ∈ cs, c.isDigit = true) : InAscii cs := by
  intro c hc
  have hdigit := h c hc
  simp only [Char.isDigit, Bool.and_eq_true, decide_eq_true_eq, ge_iff_le, UInt32.le_iff_toNat_le]
    at hdigit
  have hlow : 48 ≤ c.toNat := hdigit.1
  have hhigh : c.toNat ≤ 57 := hdigit.2
  omega

theorem inAscii_lowerDigits (width n : Nat) : InAscii (Text.Hex.lowerDigits width n) := by
  have hdigit : ∀ d : Fin 16, InAscii [Text.Hex.lowerDigit d] := by decide
  induction width generalizing n with
  | zero => exact nofun
  | succ width ih => exact (ih _).append (hdigit ⟨n % 16, Nat.mod_lt _ (by decide)⟩)

/-- **A character is written in ASCII**: by a short escape if it has one, as it is if it is
    printable, and by the escapes of its units otherwise. -/
theorem inAscii_writeChar (c : Char) : InAscii (writeChar c) := by
  unfold writeChar
  split
  · decide
  split
  · decide
  split
  · decide
  split
  · decide
  split
  · decide
  split
  · decide
  split
  · decide
  split
  -- the seven short escapes are done; what is left is printable or is escaped unit by unit
  · rename_i hprintable
    exact List.forall_mem_singleton.mpr hprintable
  · intro d hd
    obtain ⟨n, -, hmem⟩ := List.mem_flatMap.mp hd
    have hescape : InAscii (unitEscape n) :=
      .cons (by decide) (.cons (by decide) (inAscii_lowerDigits 4 n))
    exact hescape d hmem

/-- A text is written in ASCII, between two quotes. -/
theorem inAscii_writeString (s : String) : InAscii (writeString s) := by
  have hchars : InAscii (s.toList.flatMap writeChar) := by
    intro d hd
    obtain ⟨c, -, hmem⟩ := List.mem_flatMap.mp hd
    exact inAscii_writeChar c d hmem
  exact .cons (by decide) (hchars.append (by decide))

theorem inAscii_intDigits (n : Int) : InAscii (Decimal.intDigits n) := by
  have hdigits : InAscii (Nat.toDigits 10 n.natAbs) :=
    inAscii_of_isDigit fun c hc => Nat.isDigit_of_mem_toDigits (by decide) (by decide) hc
  unfold Decimal.intDigits
  split
  · exact .cons (by decide) hdigits
  · exact hdigits

mutual

/-- **A value is written in printable ASCII.** -/
theorem inAscii_writeChars : ∀ v : Json, v.IsExact → InAscii v.writeChars
  | .null, _ | .bool true, _ | .bool false, _ => by decide
  | .int n, _ => inAscii_intDigits n
  | .real x, h => absurd h (by simp [IsExact])
  | .str s, _ => inAscii_writeString s
  | .arr [], _ => by decide
  | .arr (v :: vs), h => by
    rw [IsExact, AreExact] at h
    exact .cons (by decide) ((inAscii_writeChars v h.1).append (inAscii_writeItems vs h.2))
  | .obj [], _ => by decide
  | .obj ((k, v) :: fs), h => by
    rw [IsExact, HaveExact] at h
    have hvalue := inAscii_writeChars v h.2.1
    have hfields := inAscii_writeFields fs h.2.2
    exact .cons (by decide) (((inAscii_writeString k).append
      (.cons (by decide) (.cons (by decide) hvalue))).append hfields)

theorem inAscii_writeItems : ∀ vs : List Json, AreExact vs → InAscii (writeItems vs)
  | [], _ => by decide
  | v :: vs, h => by
    rw [AreExact] at h
    exact .cons (by decide) (.cons (by decide)
      ((inAscii_writeChars v h.1).append (inAscii_writeItems vs h.2)))

theorem inAscii_writeFields : ∀ fs : Fields, HaveExact fs → InAscii (writeFields fs)
  | [], _ => by decide
  | (k, v) :: fs, h => by
    rw [HaveExact] at h
    have hvalue := inAscii_writeChars v h.1
    have hfields := inAscii_writeFields fs h.2
    exact .cons (by decide) (.cons (by decide) (((inAscii_writeString k).append
      (.cons (by decide) (.cons (by decide) hvalue))).append hfields))

end

end Json

/-! ## Taking the inputs out again

  The specification of "what arrives": readers of the variables and of the launch that know the
  fields by name and in order, and nothing of how they are written. -/

/-- The values of fields that have exactly these keys, in order. -/
def Fields.values? (keys : List String) (fields : Fields) : Option (List Json) :=
  if fields.map Prod.fst = keys then some (fields.map Prod.snd) else none

/-- The secret that a value is. -/
def Secret.ofJson? : Json → Option Secret
  | .obj fields =>
    match Fields.values? ["key", "value"] fields with
    | some [.str key, .str value] => some ⟨key, value⟩
    | _ => none
  | _ => none

/-- The operation of a kind that has these variables. -/
def Query.ofVariables? (kind : CallKind) (vars : Fields) : Option Query :=
  match kind with
  | .app =>
    match Fields.values? ["appName"] vars with
    | some [.str name] => some (.app name)
    | _ => none
  | .appsByRole =>
    match Fields.values? ["role", "organizationId"] vars with
    | some [.str role, .str organizationId] => some (.appsByRole role organizationId)
    | _ => none
  | .createApp =>
    match Fields.values? ["input"] vars with
    | some [.obj input] =>
      match Fields.values? ["organizationId", "name", "machines"] input,
          Fields.values? ["organizationId", "name", "machines", "appRoleId"] input with
      | some [.str organizationId, .str name, .bool machines], _ =>
        some (.createApp organizationId name none machines)
      | _, some [.str organizationId, .str name, .bool machines, .str role] =>
        some (.createApp organizationId name (some role) machines)
      | _, _ => none
    | _ => none
  | .addOn =>
    match Fields.values? ["name"] vars with
    | some [.str name] => some (.addOn name)
    | _ => none
  | .createAddOn =>
    match Fields.values? ["input"] vars with
    | some [.obj input] =>
      match Fields.values? ["organizationId", "name", "appId", "type"] input with
      | some [.str organizationId, .str name, .str appId, .str addOnType] =>
        some (.createAddOn organizationId name appId addOnType)
      | _ => none
    | _ => none
  | .token =>
    match Fields.values? ["name", "organizationId", "profile", "profileParams", "expiry"] vars with
    | some [.str name, .str organizationId, .str profile, params, .null] =>
      some (.createToken name organizationId profile params none)
    | some [.str name, .str organizationId, .str profile, params, .str expiry] =>
      some (.createToken name organizationId profile params (some expiry))
    | _ => none
  | .secrets =>
    match Fields.values? ["input"] vars with
    | some [.obj input] =>
      match Fields.values? ["appId", "secrets"] input with
      | some [.str appId, .arr items] => (items.mapM Secret.ofJson?).map (.setSecrets appId ·)
      | _ => none
    | _ => none
  | .region =>
    match Fields.values? [] vars with
    | some _ => some .nearestRegion
    | none => none
  | _ => none

/-- The size that a value is. -/
def Guest.ofJson? : Json → Option Guest
  | .obj fields =>
    match Fields.values? ["cpu_kind", "cpus", "memory_mb"] fields with
    | some [.str cpuKind, .int cpus, .int memoryMb] => some ⟨cpuKind, cpus, memoryMb⟩
    | _ => none
  | _ => none

/-- The text of a field, with its key. -/
def textField? : String × Json → Option (String × String)
  | (key, .str text) => some (key, text)
  | _ => none

/-- The configuration that a value is. -/
def MachineConfig.ofJson? : Json → Option MachineConfig
  | .obj fields =>
    match Fields.values? ["guest", "image", "metadata"] fields with
    | some [guest, .str image, .obj metadata] =>
      match Guest.ofJson? guest, metadata.mapM textField? with
      | some guest, some metadata => some ⟨guest, image, metadata⟩
      | _, _ => none
    | _ => none
  | _ => none

/-- The launch that a value is. -/
def Launch.ofJson? : Json → Option Launch
  | .obj fields =>
    match Fields.values? ["name", "region", "config"] fields with
    | some [.str name, .str region, config] =>
      (MachineConfig.ofJson? config).map (⟨name, region, ·⟩)
    | _ => none
  | _ => none

/-! ## What can be taken out

  Where two inputs are written alike, taking out cannot tell them apart.  `Query.plain` and
  `Launch.plain` name the one that comes out; there are two such cases, an empty role and a
  repeated key. -/

/-- The role, where the empty one is none. -/
def Query.roleOf : Option String → Option String
  | none => none
  | some role => if role = "" then none else some role

/-- The operation, where the empty role is none. -/
def Query.plain : Query → Query
  | .createApp organizationId name role machines =>
    .createApp organizationId name (roleOf role) machines
  | q => q

theorem Secret.ofJson?_toJson (s : Secret) : Secret.ofJson? s.toJson = some s := rfl

/-- Secrets are taken out as they were put in, in their order. -/
theorem Secret.mapM_ofJson? (secrets : List Secret) :
    (secrets.map Secret.toJson).mapM Secret.ofJson? = some secrets := by
  induction secrets with
  | nil => rfl
  | cons s secrets ih =>
    rw [List.map_cons, List.mapM_cons, ih, Secret.ofJson?_toJson]
    rfl

/-- The role is there exactly if it is not the empty one. -/
theorem Query.roleField_eq (role : Option String) :
    Query.roleField role = (roleOf role).toList.map fun r => ("appRoleId", .str r) := by
  cases role with
  | none => rfl
  | some r =>
    by_cases hr : r = ""
    · rw [Query.roleField, Query.roleOf, if_pos hr, if_pos hr]
      rfl
    · rw [Query.roleField, Query.roleOf, if_neg hr, if_neg hr]
      rfl

/-- **The variables hold what was given.** -/
theorem Query.ofVariables?_arguments (q : Query) :
    Query.ofVariables? (Call.query q).kind q.arguments = some q.plain := by
  cases q with
  | app | appsByRole | addOn | createAddOn | nearestRegion => rfl
  | createApp organizationId name role machines =>
    simp only [Query.arguments, Query.plain, Query.roleField_eq]
    cases Query.roleOf role <;> rfl
  | createToken name organizationId profile params expiry => cases expiry <;> rfl
  | setSecrets appId secrets =>
    show ((secrets.map Secret.toJson).mapM Secret.ofJson?).map (Query.setSecrets appId ·) = _
    rw [Secret.mapM_ofJson?]
    rfl

/-! ## Dictionaries

  The metadata of a launch are written as an object, one field after the other.  What a repeated
  key does to an object, `dictionary` does to the pairs. -/

/-- The pairs with the key set: in its place if it stands, else at the end. -/
def putText : List (String × String) → String → String → List (String × String)
  | [], key, text => [(key, text)]
  | (k, t) :: pairs, key, text =>
    if k = key then (k, text) :: pairs else (k, t) :: putText pairs key text

/-- The dictionary of the pairs: a key that is given twice keeps its first place and its last
    value. -/
def dictionary (pairs : List (String × String)) : List (String × String) :=
  pairs.foldl (fun front p => putText front p.1 p.2) []

/-- A text as a field. -/
def fieldOf (p : String × String) : String × Json := (p.1, .str p.2)

/-- To put a text into an object of texts is to put it into the dictionary that the object is made
    of. -/
theorem put_map_fieldOf (pairs : List (String × String)) (key text : String) :
    Fields.put (pairs.map fieldOf) key (.str text) = (putText pairs key text).map fieldOf := by
  induction pairs with
  | nil => rfl
  | cons p pairs ih =>
    rw [List.map_cons, putText]
    by_cases hkey : p.1 = key
    · rw [if_pos hkey, fieldOf, Fields.put, if_pos hkey]
      rfl
    · rw [if_neg hkey, fieldOf, Fields.put, if_neg hkey, ih]
      rfl

/-- **Metadata are the fields of their dictionary.** -/
theorem metadataFields_eq (pairs : List (String × String)) :
    metadataFields pairs = (dictionary pairs).map fieldOf := by
  have hfold : ∀ front : List (String × String),
      (pairs.map fieldOf).foldl (fun fields p => Fields.put fields p.1 p.2) (front.map fieldOf) =
        (pairs.foldl (fun front p => putText front p.1 p.2) front).map fieldOf := by
    induction pairs with
    | nil => exact fun _ => rfl
    | cons p pairs ih =>
      intro front
      rw [List.map_cons, List.foldl_cons, List.foldl_cons, ← ih, ← put_map_fieldOf]
      rfl
  exact hfold []

/-- A key that is there keeps its place, and a new one comes last. -/
theorem keys_putText (pairs : List (String × String)) (key text : String) :
    (putText pairs key text).map Prod.fst =
      if key ∈ pairs.map Prod.fst then pairs.map Prod.fst else pairs.map Prod.fst ++ [key] := by
  induction pairs with
  | nil => rfl
  | cons p pairs ih =>
    rw [putText, List.map_cons]
    by_cases hkey : p.1 = key
    · simp [hkey]
    · have hne : key ≠ p.1 := Ne.symm hkey
      rw [if_neg hkey, List.map_cons, ih]
      simp only [List.mem_cons, hne, false_or]
      split <;> rfl

/-- A dictionary has each key once. -/
theorem nodup_keys_dictionary (pairs : List (String × String)) :
    ((dictionary pairs).map Prod.fst).Nodup := by
  have hfold : ∀ front : List (String × String), (front.map Prod.fst).Nodup →
      ((pairs.foldl (fun front p => putText front p.1 p.2) front).map Prod.fst).Nodup := by
    induction pairs with
    | nil => exact fun _ h => h
    | cons p pairs ih =>
      intro front hfront
      refine ih _ ?_
      rw [keys_putText]
      split
      · exact hfront
      · rename_i hkey
        exact List.nodup_append.mpr ⟨hfront, List.nodup_singleton _, by
          rintro a ha b hb rfl
          exact hkey (List.mem_singleton.mp hb ▸ ha)⟩
  exact hfold [] List.nodup_nil

/-- Pairs that have each key once are a dictionary. -/
theorem dictionary_of_nodup {pairs : List (String × String)} (h : (pairs.map Prod.fst).Nodup) :
    dictionary pairs = pairs := by
  have hfields : ((pairs.map fieldOf).map Prod.fst).Nodup := by
    rw [List.map_map]
    exact h
  have heq : (dictionary pairs).map fieldOf = pairs.map fieldOf := by
    rw [← metadataFields_eq]
    exact Json.ofPairs_of_nodup hfields
  have hinj : Function.Injective fieldOf := by
    rintro ⟨k, t⟩ ⟨k', t'⟩ hp
    cases hp
    rfl
  exact List.map_injective_iff.mpr hinj heq

/-- The launch, with the dictionary of its metadata. -/
def Launch.plain (what : Launch) : Launch :=
  { what with config := { what.config with metadata := dictionary what.config.metadata } }

/-- **A launch holds what was given.** -/
theorem Launch.ofJson?_toJson (what : Launch) : Launch.ofJson? what.toJson = some what.plain := by
  have htexts : ∀ pairs : List (String × String), (pairs.map fieldOf).mapM textField? =
      some pairs := by
    intro pairs
    induction pairs with
    | nil => rfl
    | cons p pairs ih =>
      rw [List.map_cons, List.mapM_cons, ih]
      rfl
  have hconfig : MachineConfig.ofJson? what.config.toJson =
      some { what.config with metadata := dictionary what.config.metadata } := by
    have hguest : Guest.ofJson? what.config.guest.toJson = some what.config.guest := rfl
    simp [MachineConfig.toJson, MachineConfig.ofJson?, Fields.values?, metadataFields_eq, htexts,
      hguest]
  show (MachineConfig.ofJson? what.config.toJson).map (Launch.mk what.name what.region ·) = _
  rw [hconfig]
  rfl

/-! ## Bodies that can be sent

  A value is read back as itself if its integers are not too long, and its keys stand once.  All
  bodies are of this kind, as long as the numbers are that the caller chose. -/

/-- The operation can be sent: it writes at least one secret, and the rights that a token is issued
    with can be written and read back. -/
def Query.IsSendable : Query → Prop
  | .setSecrets _ secrets => secrets ≠ []
  | .createToken _ _ _ params _ => params.IsExact
  | _ => True

/-- The launch can be sent: its numbers are not too long to be read. -/
def Launch.IsSendable (what : Launch) : Prop :=
  (Json.int what.config.guest.cpus).IsExact ∧ (Json.int what.config.guest.memoryMb).IsExact

/-- The body of a query has only values whose text is read as the same value; of the profile's
    parameters, which are the caller's, this is the condition. -/
theorem Query.isExact_toJson {q : Query} (h : q.IsSendable) : q.toJson.IsExact := by
  have hargs : (Json.obj q.arguments).IsExact := by
    cases q with
    | app | appsByRole | addOn | createAddOn | nearestRegion =>
      simp [Query.arguments, Json.IsExact, Json.HaveExact]
    | createApp organizationId name role machines =>
      cases hrole : Query.roleOf role <;>
        simp [Query.arguments, Query.roleField_eq, hrole, Json.IsExact, Json.HaveExact]
    | createToken name organizationId profile params expiry =>
      have hparams : params.IsExact := h
      cases expiry <;> simp [Query.arguments, Query.textOrNull, Json.IsExact, Json.HaveExact,
        hparams]
    | setSecrets appId secrets =>
      have hsecrets : Json.AreExact (secrets.map Secret.toJson) :=
        Json.areExact_map (fun s => by simp [Secret.toJson, Json.IsExact, Json.HaveExact]) secrets
      simp [Query.arguments, Json.IsExact, Json.HaveExact, hsecrets]
  simp [Query.toJson, Json.IsExact, Json.HaveExact] at hargs ⊢
  exact hargs

/-- Texts are exact. -/
theorem haveExact_map_fieldOf : ∀ pairs : List (String × String), Json.HaveExact (pairs.map fieldOf)
  | [] => by simp [Json.HaveExact]
  | _ :: pairs => ⟨by simp [Json.IsExact], haveExact_map_fieldOf pairs⟩

/-- The body of a launch is read as the same value, if the guest's numbers are not too long. -/
theorem Launch.isExact_toJson {what : Launch} (h : what.IsSendable) : what.toJson.IsExact := by
  have hmetadata : (Json.obj (metadataFields what.config.metadata)).IsExact := by
    rw [metadataFields_eq, Json.IsExact, List.map_map]
    exact ⟨nodup_keys_dictionary _, haveExact_map_fieldOf _⟩
  obtain ⟨hcpus, hmemory⟩ := h
  simp only [Launch.toJson, MachineConfig.toJson, Guest.toJson, Json.IsExact, Json.HaveExact]
    at hmetadata hcpus hmemory ⊢
  simp [hmetadata, hcpus, hmemory]

/-- The body is a text of printable ASCII that is read as the value. -/
def Carries (body : Option String) (v : Json) : Prop :=
  ∃ text, body = some text ∧ Json.InAscii text.toList ∧ Json.read text.toList = .ok v

/-- What is written is carried: the text is read as that value and as no other. -/
theorem carries_write {v : Json} (h : v.IsExact) : Carries (some v.write) v := by
  refine ⟨v.write, rfl, ?_, ?_⟩
  · rw [Json.write, String.toList_ofList]
    exact Json.inAscii_writeChars v h
  · rw [Json.write, String.toList_ofList]
    exact Json.read_writeChars h

/-- A body carries one value only. -/
theorem Carries.unique {body : Option String} {v w : Json} (hv : Carries body v)
    (hw : Carries body w) : v = w := by
  obtain ⟨text, hbody, -, hread⟩ := hv
  obtain ⟨other, hother, -, hreadOther⟩ := hw
  cases hbody.symm.trans hother
  exact Except.ok.inj (hread.symm.trans hreadOther)

/-! ## What an operation sends

  One request for each operation, with that body and no other. -/

namespace Procedure

/-- **The operation of a call asks that call.** -/
theorem asksOnce_operation {call : Call} (h : call.IsAskable) : AsksOnce call call.operation := by
  have hforget : ∀ {β : Type} {p : Procedure β}, AsksOnce call p → AsksOnce call p.forget :=
    fun hp => hp.bind fun _ => trivial
  -- call by call, since a restart and the secrets look at their arguments first
  cases call with
  | query q =>
    cases q with
    | app => exact hforget (Platform.asksOnce_app _)
    | appsByRole => exact hforget (Platform.asksOnce_appsByRole _ _)
    | createApp => exact hforget (Platform.asksOnce_createApp _ _ _ _)
    | addOn => exact hforget (Platform.asksOnce_addOn _)
    | createAddOn => exact hforget (Platform.asksOnce_createAddOn _ _ _ _)
    | createToken => exact hforget (Platform.asksOnce_createToken _ _ _ _ _)
    | setSecrets => exact hforget (Platform.asksOnce_setSecrets _ h)
    | nearestRegion => exact hforget Platform.asksOnce_nearestRegion
  | machines app call =>
    cases call with
    | list => exact hforget (Machines.asksOnce_list _)
    | launch => exact hforget (Machines.asksOnce_launch _ _)
    | restart => exact hforget (Machines.asksOnce_restart _ h)
    | wait => exact hforget ((Machines.asksOnce_ask _ _).bind fun _ => trivial)

end Procedure

/-- What can be sent is asked for: secrets are there to be written. -/
theorem Query.isAskable {q : Query} (h : q.IsSendable) : (Call.query q).IsAskable := by
  cases q with
  | setSecrets => exact h
  | _ => trivial

/-- The document is the same for all operations of a kind. -/
theorem Query.document_eq {q other : Query} (h : (Call.query q).kind = (Call.query other).kind) :
    q.document = other.document := by
  cases q <;> cases other <;> cases h <;> rfl

/-- What the bodies of the requests say: each operation sends one request, whose body carries the
    document of its kind with variables that hold what was given, or the launch that was given; and
    equal bodies of one kind come from equal inputs. -/
structure Faithful {σ : Type} (respond : σ → Call → Reply × σ) (s : σ) (settings : Settings) :
    Prop where
  query : ∀ q : Query, q.IsSendable →
    ((Call.query q).operation.run respond s).calls = [.query q] ∧
      Carries ((Call.query q).request settings).body
        (.obj [("query", .str q.document), ("variables", .obj q.arguments)]) ∧
      Query.ofVariables? (Call.query q).kind q.arguments = some q.plain
  document : ∀ q other : Query, (Call.query q).kind = (Call.query other).kind →
    q.document = other.document
  queries_apart : ∀ q other : Query, q.IsSendable → other.IsSendable →
    (Call.query q).kind = (Call.query other).kind → q.plain ≠ other.plain →
    ((Call.query q).request settings).body ≠ ((Call.query other).request settings).body
  launch : ∀ app (what : Launch), what.IsSendable →
    ((Machines.launch app what).run respond s).calls = [.machines app (.launch what)] ∧
      Carries ((Call.machines app (.launch what)).request settings).body what.toJson ∧
      Launch.ofJson? what.toJson = some what.plain
  dictionary : ∀ what : Launch, (what.config.metadata.map Prod.fst).Nodup → what.plain = what
  launches_apart : ∀ app app' (what other : Launch), what.IsSendable → other.IsSendable →
    what.plain ≠ other.plain →
    ((Call.machines app (.launch what)).request settings).body ≠
      ((Call.machines app' (.launch other)).request settings).body

/-- **The body of every request holds exactly what was given**, whatever the texts are. -/
theorem bodies_faithful {σ : Type} (respond : σ → Call → Reply × σ) (s : σ) (settings : Settings) :
    Faithful respond s settings where
  query q h := ⟨(Procedure.asksOnce_operation (Query.isAskable h)).calls_run respond s,
    carries_write (Query.isExact_toJson h), Query.ofVariables?_arguments q⟩
  document _ _ h := Query.document_eq h
  queries_apart q other h hother hkind hplain hbody := by
    have hq := carries_write (Query.isExact_toJson h)
    -- equal bodies carry equal values, and from equal values the same input is taken out
    have hsame : Carries ((Call.query q).request settings).body other.toJson := by
      rw [hbody]
      exact carries_write (Query.isExact_toJson hother)
    have hjson : q.toJson = other.toJson := Carries.unique hq hsame
    have hargs : q.arguments = other.arguments := by
      simp only [Query.toJson, Json.obj.injEq, List.cons.injEq, Prod.mk.injEq, true_and, and_true]
        at hjson
      exact hjson.2
    have hread := Query.ofVariables?_arguments q
    rw [hkind, hargs, Query.ofVariables?_arguments other] at hread
    exact hplain (Option.some.inj hread).symm
  launch app what h := ⟨(Machines.asksOnce_launch app what).calls_run respond s,
    carries_write (Launch.isExact_toJson h), Launch.ofJson?_toJson what⟩
  dictionary what h := by
    unfold Launch.plain
    rw [dictionary_of_nodup h]
  launches_apart app app' what other h hother hplain hbody := by
    have hwhat := carries_write (Launch.isExact_toJson h)
    have hsame : Carries ((Call.machines app (.launch what)).request settings).body
        other.toJson := by
      rw [hbody]
      exact carries_write (Launch.isExact_toJson hother)
    have hread := Launch.ofJson?_toJson what
    rw [Carries.unique hwhat hsame, Launch.ofJson?_toJson other] at hread
    exact hplain (Option.some.inj hread).symm

/-- Secrets with a key that is repeated and with texts that have to be escaped. -/
theorem faithful_repeated_key :
    let secrets : List Secret := [⟨"KEY", "\"\\\n\x7f"⟩, ⟨"KEY", "é😀"⟩, ⟨"", "\x7d"⟩]
    let settings : Settings := ⟨"tok", "http://api", "http://machines", .ofDecimal false 30 0⟩
    let call : Call := .query (.setSecrets "app_1" secrets)
    secrets ≠ [] ∧ (call.operation.run Procedure.nextReply []).calls = [call] ∧
      Carries (call.request settings).body
        (.obj [("query", .str (Query.setSecrets "app_1" secrets).document),
          ("variables", .obj [("input",
            .obj [("appId", .str "app_1"), ("secrets", .arr (secrets.map Secret.toJson))])])]) := by
  intro secrets settings call
  have hsecrets : secrets ≠ [] := List.cons_ne_nil _ _
  have hquery := (bodies_faithful Procedure.nextReply [] settings).query
    (.setSecrets "app_1" secrets) hsecrets
  exact ⟨hsecrets, hquery.1, hquery.2.1⟩

end LogDrain
