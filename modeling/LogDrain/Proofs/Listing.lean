/-
  MACHINES DECODED: what a listing and a launch make of a status and a body.

  Both read the status first: 404 says that something is not there, and every status but 200 and 201
  that the operation failed.  Then they part:

    * a listing wants an array.  No bytes, and a value that is no array, list nothing; of an array
      the objects count, every one of them in its place (`Machines.mapM_machine_iff`);
    * a launch wants an object with an id, and takes nothing else for one.

  An object without an id is refused by both, and a present id is shown as a text that is not empty.
  So the machines listed are the objects of the array, one for one and in order, and each can be
  told by its id (`Listed.faithful`, `Launched.faithful`).

  The verdict over a status is shared by both (`gated_given`), and is stated once, for whatever
  comes after it; so what is proved of a listing and of a launch is about bodies only.
-/
import LogDrain.Proofs.Misread
import LogDrain.Proofs.Shown
import LogDrain.Proofs.Verdict

namespace LogDrain

/-! ## What is said of a decoder

  The specification of the two decoders, in terms of the status and of the value that the bytes
  are.  Neither mentions the other, nor how a body is read. -/

/-- The reading fails with a fault of this class. -/
abbrev FailsAs {α : Type} (kind : FaultKind) (r : Except Fault α) : Prop :=
  StopsWith (fun fault => fault.kind = kind) r

/-- The status says that it was done. -/
def IsDone (status : Int) : Prop := status = 200 ∨ status = 201

/-- The object has something for an id. -/
def HasId (fields : Fields) : Prop := (Fields.get fields "id").isPresent = true

/-- The bytes are a JSON text of an object with an id. -/
def EncodesMachine (payload : List UInt8) : Prop :=
    ∃ fields, Encodes payload (.obj fields) ∧ HasId fields

/-- What comes of the status alone: 404, and no other status and no body, says that something is not
    there; and every other status that does not say that it was done is a failure. -/
structure Gated {α : Type} (status : Int) (r : Except Fault α) : Prop where
  notFound : FailsAs .notFound r ↔ status = 404
  failed : ¬ IsDone status → status ≠ 404 → FailsAs .machines r

/-- How a listing is decoded. -/
structure Listed (status : Int) (payload : List UInt8) (r : Except Fault (List Machine)) :
    Prop where
  gated : Gated status r
  unreadable : IsDone status → payload ≠ [] → Unreadable payload → FailsAs .machines r
  nothing : IsDone status → (payload = [] ∨ ∃ v, Encodes payload v ∧ ∀ items, v ≠ .arr items) →
    r = .ok []
  listed : ∀ items, IsDone status → Encodes payload (.arr items) →
    (∀ fields ∈ Json.objects items, ¬ MisfitMachine fields) →
    (∀ fields ∈ Json.objects items, HasId fields) →
    r = .ok ((Json.objects items).map fun fields => .shownBy (.obj fields))
  unnamed : ∀ items, IsDone status → Encodes payload (.arr items) →
    (∀ fields ∈ Json.objects items, ¬ MisfitMachine fields) →
    (∃ fields ∈ Json.objects items, ¬ HasId fields) → FailsAs .machines r
  faithful : ∀ items machines, Encodes payload (.arr items) → r = .ok machines →
    machines = (Json.objects items).map fun fields => .shownBy (.obj fields)
  named : ∀ machines, r = .ok machines → ∀ m ∈ machines, m.id ≠ ""

/-- How the reply to a launch is decoded. -/
structure Launched (status : Int) (payload : List UInt8) (r : Except Fault Machine) : Prop where
  gated : Gated status r
  refused : IsDone status → ¬ EncodesMachine payload → FailsAs .machines r
  launched : ∀ fields, IsDone status → Encodes payload (.obj fields) → HasId fields →
    ¬ MisfitMachine fields → r = .ok (.shownBy (.obj fields))
  faithful : ∀ m, r = .ok m → ∃ fields, Encodes payload (.obj fields) ∧ m = .shownBy (.obj fields)
  named : ∀ m, r = .ok m → m.id ≠ ""

namespace Machines

variable {app : String} {call : MachineCall} {what : Launch} {fields : Fields}
  {payload : List UInt8}

/-! ## One machine -/

/-- **A machine is taken** from an object with an id whose texts are texts, and is what the object
    shows. -/
theorem machine_eq_ok_iff {m : Machine} :
    machine app call fields = .ok m ↔
      HasId fields ∧ ¬ MisfitMachine fields ∧ m = .shownBy (.obj fields) := by
  unfold machine HasId
  split
  · rename_i hid
    rw [mapError_eq_ok, Machine.ofJson_eq_ok_iff]
    exact ⟨fun h => ⟨hid, h⟩, And.right⟩
  · rename_i hid
    exact iff_of_false nofun fun h => hid h.1

/-- Without an id there is no machine, whatever else the object has. -/
theorem machine_of_not_hasId (h : ¬ HasId fields) :
    machine app call fields = .error (.machines app (.noMachineId call.action)) := if_neg h

/-- Where the texts are texts, it is refused only for its id. -/
theorem failsAs_machine (hfits : ¬ MisfitMachine fields) (h : Stops (machine app call fields)) :
    FailsAs .machines (machine app call fields) := by
  unfold machine at h ⊢
  split
  · rename_i hid
    rw [if_pos hid] at h
    exact absurd (Machine.stops_ofJson.mp (stopsWith_mapError.mp h)) hfits
  · exact stopsWith_error.mpr rfl

/-- That something is not there, is never said of a machine that is read. -/
theorem not_failsAs_machine : ¬ FailsAs .notFound (machine app call fields) := by
  intro h
  unfold machine at h
  split at h
  · obtain ⟨fault, -, hkind⟩ := stopsWith_mapError.mp h
    exact Platform.shapeFault_kind_ne fault hkind
  · have hkind := stopsWith_error.mp h
    cases hkind

/-! ## A row of machines

  The row is read from the front and stops at the first that cannot be.  If none stops it the
  result is the whole row, one machine for each object; this is an equivalence and the only
  induction here. -/

/-- **Objects are taken one for one and in order**, or not at all. -/
theorem mapM_machine_iff {objects : List Fields} {machines : List Machine} :
    objects.mapM (machine app call) = .ok machines ↔
      (∀ fields ∈ objects, HasId fields ∧ ¬ MisfitMachine fields) ∧
        machines = objects.map fun fields => .shownBy (.obj fields) := by
  rw [mapM_ok_iff]
  induction objects generalizing machines with
  | nil => simp
  | cons first rest ih =>
    rw [List.forall_mem_cons, List.map_cons]
    constructor
    · intro h
      cases h with
      | cons hfirst hrest =>
        obtain ⟨hid, hfits, rfl⟩ := machine_eq_ok_iff.mp hfirst
        obtain ⟨hall, rfl⟩ := ih.mp hrest
        exact ⟨⟨⟨hid, hfits⟩, hall⟩, rfl⟩
    · rintro ⟨⟨⟨hid, hfits⟩, hall⟩, rfl⟩
      exact .cons (machine_eq_ok_iff.mpr ⟨hid, hfits, rfl⟩) (ih.mpr ⟨hall, rfl⟩)

/-- If one of them has no id, the whole is refused. -/
theorem failsAs_mapM {objects : List Fields} (hfits : ∀ fields ∈ objects, ¬ MisfitMachine fields)
    (hunnamed : ∃ fields ∈ objects, ¬ HasId fields) :
    FailsAs .machines (objects.mapM (machine app call)) := by
  have hstops : Stops (objects.mapM (machine app call)) := by
    refine (stops_or_ok _).resolve_right ?_
    rintro ⟨machines, hmachines⟩
    obtain ⟨fields, hmem, hid⟩ := hunnamed
    exact hid ((mapM_machine_iff.mp hmachines).1 fields hmem).1
  -- it stops at one of the objects, and these stop only for their ids
  obtain ⟨before, fields, after, hsplit, hbefore, hfields⟩ := stopsWith_mapM.mp hstops
  have hmem : fields ∈ objects := by simp [hsplit]
  have hfails := failsAs_machine (hfits fields hmem) hfields
  exact stopsWith_mapM.mpr ⟨before, fields, after, hsplit, hbefore, hfails⟩

/-- A row of machines is never told as not found, since no single one is. -/
theorem not_failsAs_mapM {objects : List Fields} :
    ¬ FailsAs .notFound (objects.mapM (machine app call)) := by
  intro h
  obtain ⟨_, _, _, -, -, hfields⟩ := stopsWith_mapM.mp h
  exact not_failsAs_machine hfields

/-- The id of what is shown is not empty where there is one. -/
theorem shownBy_id_ne_empty (h : HasId fields) : (Machine.shownBy (.obj fields)).id ≠ "" := by
  have hid : (Machine.shownBy (.obj fields)).id = (Fields.get fields "id").display := by
    simp [Machine.shownBy]
  rw [hid]
  exact Json.display_ne_empty h

/-! ## The bodies

  Bytes are nothing, or a JSON text, or neither.  For a listing nothing counts as an empty one;
  for a launch it counts as an object without an id. -/

/-- No bytes are no text of any value. -/
theorem ne_nil_of_encodes {v : Json} (h : Encodes payload v) : payload ≠ [] := by
  rintro rfl
  obtain ⟨cs, hdecode, hread⟩ := h
  cases hdecode
  cases hread

/-- What is listed depends on the value that the bytes are: an array lists its objects, anything
    else nothing. -/
theorem readList_of_encodes {v : Json} (h : Encodes payload v) :
    readList app payload =
      match v with
      | .arr items => (Json.objects items).mapM (machine app .list)
      | _ => .ok [] := by
  unfold readList payloadValue?
  rw [if_neg (ne_nil_of_encodes h), Envelope.parse?_eq_some_iff.mpr h]
  cases v <;> rfl

/-- Bytes that are no JSON text are refused, unless there are none. -/
theorem readList_of_unreadable (hne : payload ≠ []) (h : Unreadable payload) :
    readList app payload = .error (.machines app .unreadableList) := by
  unfold readList payloadValue?
  rw [if_neg hne, Envelope.parse?_eq_none_iff.mpr h]

/-- Bytes are none, or they cannot be read, or they are a text of a value. -/
theorem payload_cases (payload : List UInt8) :
    payload = [] ∨ (payload ≠ [] ∧ Unreadable payload) ∨ ∃ v, Encodes payload v := by
  by_cases hne : payload = []
  · exact Or.inl hne
  refine Or.inr ?_
  cases hparse : Envelope.parse? payload with
  | none => exact Or.inl ⟨hne, Envelope.parse?_eq_none_iff.mp hparse⟩
  | some v => exact Or.inr ⟨v, Envelope.parse?_eq_some_iff.mp hparse⟩

/-- Reading a listing never tells that something is not found: only the status says that. -/
theorem not_failsAs_readList : ¬ FailsAs .notFound (readList app payload) := by
  intro h
  rcases payload_cases payload with rfl | ⟨hne, hbytes⟩ | ⟨v, hv⟩
  · exact stopsWith_ok _ h
  · rw [readList_of_unreadable hne hbytes] at h
    have hkind := stopsWith_error.mp h
    cases hkind
  · rw [readList_of_encodes hv] at h
    split at h
    · exact not_failsAs_mapM h
    · exact stopsWith_ok _ h

/-! ## Listings -/

theorem readList_of_array {items : List Json} (h : Encodes payload (.arr items)) :
    readList app payload = (Json.objects items).mapM (machine app .list) :=
  readList_of_encodes h

example : readList "acme" (Text.Utf8.encode "[null, \x7b\"id\": 7\x7d, \"m\"]".toList) =
    .ok [⟨"7", none, none, none, none⟩] := by decide +kernel

/-! ## Launches -/

theorem readLaunch_of_object (h : Encodes payload (.obj fields)) :
    readLaunch app what payload = machine app (.launch what) fields := by
  unfold readLaunch payloadValue?
  rw [if_neg (ne_nil_of_encodes h), Envelope.parse?_eq_some_iff.mpr h]

/-- What is no object with an id is refused, and no bytes are not one. -/
theorem failsAs_readLaunch (h : ¬ EncodesMachine payload) :
    FailsAs .machines (readLaunch app what payload) := by
  unfold readLaunch payloadValue?
  by_cases hne : payload = []
  · -- the object that stands for no bytes has no id
    rw [if_pos hne]
    exact stopsWith_error.mpr rfl
  · rw [if_neg hne]
    split
    · rename_i fields hparse
      have hid : ¬ HasId fields := fun hid => h ⟨fields, Envelope.parse?_eq_some_iff.mp hparse, hid⟩
      rw [machine_of_not_hasId hid]
      exact stopsWith_error.mpr rfl
    · exact stopsWith_error.mpr rfl

theorem not_failsAs_readLaunch : ¬ FailsAs .notFound (readLaunch app what payload) := by
  intro h
  by_cases hmachine : EncodesMachine payload
  · obtain ⟨fields, hv, -⟩ := hmachine
    rw [readLaunch_of_object hv] at h
    exact not_failsAs_machine h
  · have hrefused : FailsAs .machines (readLaunch app what payload) := failsAs_readLaunch hmachine
    obtain ⟨fault, hfault, hkind⟩ := h
    obtain ⟨other, hother, hclass⟩ := hrefused
    cases hfault.symm.trans hother
    cases hkind.symm.trans hclass

/-- **A launch gives a machine** exactly where the body is an object with an id, whose texts are
    texts. -/
theorem readLaunch_eq_ok_iff {m : Machine} :
    readLaunch app what payload = .ok m ↔
      ∃ fields, Encodes payload (.obj fields) ∧ HasId fields ∧ ¬ MisfitMachine fields ∧
        m = .shownBy (.obj fields) := by
  constructor
  · intro h
    by_cases hmachine : EncodesMachine payload
    · obtain ⟨fields, hv, -⟩ := hmachine
      rw [readLaunch_of_object hv] at h
      exact ⟨fields, hv, machine_eq_ok_iff.mp h⟩
    · have hrefused : FailsAs .machines (readLaunch app what payload) := failsAs_readLaunch hmachine
      obtain ⟨fault, hfault, -⟩ := hrefused
      cases hfault.symm.trans h
  · rintro ⟨fields, hv, hread⟩
    rw [readLaunch_of_object hv]
    exact machine_eq_ok_iff.mpr hread

/-! ## Statuses

  The status is read first, and everything so far was about accepted ones. -/

section Statuses

variable {α : Type} {status : Int} {readBody : List UInt8 → Except Fault α}

/-- Two statuses say that it was done. -/
theorem isAccepted_iff : isAccepted status = true ↔ IsDone status := by
  simp [isAccepted, IsDone]

/-- Where the status says that it was done, the body decides. -/
theorem given_of_isDone (h : IsDone status) :
    (ask app call >>= fun payload => Procedure.ofExcept (readBody payload)).given
      (.answered status payload) = readBody payload := by
  rw [Procedure.given_then, given_ask, bodyOf, if_pos (isAccepted_iff.mpr h)]
  exact Procedure.given_ofExcept _ _

/-- Every other status is all that counts. -/
theorem given_of_not_isDone (h : ¬ IsDone status) :
    (ask app call >>= fun payload => Procedure.ofExcept (readBody payload)).given
      (.answered status payload) =
        .error (.machines app (.status call.action status (Envelope.details payload))) := by
  rw [Procedure.given_then, given_ask, bodyOf, if_neg (mt isAccepted_iff.mp h)]
  rfl

/-- A status is read first, if no body says that something is not there. -/
theorem gated_given (hread : ¬ FailsAs .notFound (readBody payload)) :
    Gated status ((ask app call >>= fun payload => Procedure.ofExcept (readBody payload)).given
      (.answered status payload)) := by
  by_cases hdone : IsDone status
  · rw [given_of_isDone hdone]
    have hother : status ≠ 404 := by
      unfold IsDone at hdone
      omega
    exact ⟨iff_of_false hread hother, fun h => absurd hdone h⟩
  · rw [given_of_not_isDone hdone]
    constructor
    · refine stopsWith_error.trans ?_
      simp [Fault.kind, MachinesFault.kind]
    · intro _ hother
      exact stopsWith_error.mpr (if_neg hother)

end Statuses

/-- **A listing is decoded** so, whatever the status and the body are. -/
theorem listed_given (app : String) (status : Int) (payload : List UInt8) :
    Listed status payload ((list app).given (.answered status payload)) where
  gated := gated_given not_failsAs_readList
  unreadable hdone hne hbytes := by
    rw [list, given_of_isDone hdone, readList_of_unreadable hne hbytes]
    exact stopsWith_error.mpr rfl
  nothing hdone h := by
    rw [list, given_of_isDone hdone]
    rcases h with rfl | ⟨v, hv, hother⟩
    · rfl
    · rw [readList_of_encodes hv]
      -- a body that is no array counts as an empty one
      cases v with
      | arr items => exact absurd rfl (hother items)
      | null | bool | int | real | str | obj => rfl
  listed items hdone hitems hfits hids := by
    rw [list, given_of_isDone hdone, readList_of_array hitems]
    exact mapM_machine_iff.mpr ⟨fun fields hfields => ⟨hids fields hfields, hfits fields hfields⟩,
      rfl⟩
  unnamed items hdone hitems hfits hunnamed := by
    rw [list, given_of_isDone hdone, readList_of_array hitems]
    exact failsAs_mapM hfits hunnamed
  faithful items machines hitems h := by
    by_cases hdone : IsDone status
    · rw [list, given_of_isDone hdone, readList_of_array hitems] at h
      exact (mapM_machine_iff.mp h).2
    · rw [list, given_of_not_isDone hdone] at h
      cases h
  named machines h := id_ne_empty h

/-- **The reply to a launch is decoded** so, whatever the status and the body are. -/
theorem launched_given (app : String) (what : Launch) (status : Int) (payload : List UInt8) :
    Launched status payload ((launch app what).given (.answered status payload)) := by
  have hread : ∀ m, (launch app what).given (.answered status payload) = .ok m →
      readLaunch app what payload = .ok m := by
    intro m h
    obtain ⟨_, _, hreply, -, hread⟩ := readLaunch_of_launch h
    cases hreply
    exact hread
  -- the statements about a machine are read off the one equation for what was launched
  refine ⟨gated_given not_failsAs_readLaunch, ?_, ?_, ?_, ?_⟩
  · intro hdone h
    rw [launch, given_of_isDone hdone]
    exact failsAs_readLaunch h
  · intro fields hdone hv hid hfits
    rw [launch, given_of_isDone hdone]
    exact readLaunch_eq_ok_iff.mpr ⟨fields, hv, hid, hfits, rfl⟩
  · intro m h
    obtain ⟨fields, hv, -, -, hm⟩ := readLaunch_eq_ok_iff.mp (hread m h)
    exact ⟨fields, hv, hm⟩
  · intro m h
    obtain ⟨fields, -, hid, -, rfl⟩ := readLaunch_eq_ok_iff.mp (hread m h)
    exact shownBy_id_ne_empty hid

end Machines

/-- How the two operations that give machines decode what they are sent. -/
structure Decodes (list : Int → List UInt8 → Except Fault (List Machine))
    (launch : Int → List UInt8 → Except Fault Machine) : Prop where
  lists : ∀ status payload, Listed status payload (list status payload)
  launches : ∀ status payload, Launched status payload (launch status payload)

/-- **Machines are decoded so** for every app, every launch and every reply. -/
theorem machines_decode (app : String) (what : Launch) (replies : List Reply) :
    Decodes
      (fun status payload =>
        ((Machines.list app).run Procedure.nextReply (.answered status payload :: replies)).result)
      (fun status payload =>
        ((Machines.launch app what).run Procedure.nextReply
        (.answered status payload :: replies)).result)
    where
  lists status payload := by
    rw [(Machines.asksOnce_list app).result_run]
    exact Machines.listed_given app status payload
  launches status payload := by
    rw [(Machines.asksOnce_launch app what).result_run]
    exact Machines.launched_given app what status payload

end LogDrain
