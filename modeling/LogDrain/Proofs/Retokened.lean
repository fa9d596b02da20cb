/-
  RETOKENED REPLIES: the same reply with another token in it.

  Three kinds of reply carry a token, each at a place of its own (`tokenPaths`).
  `v.Retokened path w` says that `v` has a text at the path, and that `w` is `v` with another text
  there, neither of them empty. Replies are alike (`Reply.Alike`) if they are equal, or accepted and
  one is the other retokened.

  What is read of replies that are alike matches, step by step: the envelope gives the same fault,
  or data that differ at a path to a token at most (`BodyRetokened.read`); under a key of the data
  stands the same, or what is alike along the rest of the path (`DataAlike.get`); an add-on differs
  in its token (`AddOn.ofJson_alike`); and the Machines API, which looks at no data, sees no
  difference at all.
-/
import LogDrain.Machines
import LogDrain.Proofs.Twins

namespace LogDrain

/-! ## Another token

  A relation on values, indexed by the path on which they may differ.  Everything off the path is
  equal, and at its end there are two texts, neither of them empty: so no reading that only asks
  whether something is there can tell them apart. -/

/-- Where the data of a reply can carry a token. -/
def tokenPaths : List (List String) :=
  [["addOn", "token"], ["createAddOn", "addOn", "token"],
   ["createLimitedAccessToken", "limitedAccessToken", "token"]]

namespace Json

/-- The second value is the first one with another text at the end of the path; neither text is
    empty. -/
inductive Retokened : List String → Json → Json → Prop
  | text {token token' : String} : token ≠ "" → token' ≠ "" →
      Retokened [] (.str token) (.str token')
  | field {key : String} {path : List String} {fields : Fields} {w : Json} :
      Retokened path (Fields.get fields key) w →
      Retokened (key :: path) (.obj fields) (.obj (fields.put key w))

namespace Retokened

variable {path : List String} {v w : Json} {key : String}

/-- Both values are there. -/
theorem isPresent (h : Retokened path v w) : v.isPresent = true ∧ w.isPresent = true := by
  cases h with
  | text htoken htoken' => exact ⟨bne_iff_ne.mpr htoken, bne_iff_ne.mpr htoken'⟩
  | @field key path fields w h =>
    cases fields with
    | nil => cases h
    | cons p rest =>
      refine ⟨rfl, ?_⟩
      show (!(Fields.put (p :: rest) key w).isEmpty) = true
      unfold Fields.put
      split <;> rfl

/-- Both values are objects: under the first key they differ along the rest of the path, and under
    every other key not at all. -/
theorem exists_fields (h : Retokened (key :: path) v w) :
    ∃ fields fields', v = .obj fields ∧ w = .obj fields' ∧
      Retokened path (Fields.get fields key) (Fields.get fields' key) ∧
      ∀ other, other ≠ key → Fields.get fields other = Fields.get fields' other := by
  cases h with
  | @field _ _ fields u h =>
    refine ⟨fields, fields.put key u, rfl, rfl, ?_, fun other hother => ?_⟩
    · rw [Fields.get_put_self]
      exact h
    · exact (Fields.get_put_of_ne fields u hother).symm

theorem memberOfPresent (h : Retokened (key :: path) v w) :
    ∃ v' w', v.memberOfPresent key = .ok v' ∧ w.memberOfPresent key = .ok w' ∧
      Retokened path v' w' := by
  obtain ⟨hv, hw⟩ := h.isPresent
  unfold Json.memberOfPresent orElse
  rw [if_pos hv, if_pos hw]
  obtain ⟨fields, fields', rfl, rfl, hkey, -⟩ := h.exists_fields
  exact ⟨_, _, rfl, rfl, hkey⟩

end Retokened

/-- The values are equal, or the second is the first retokened. -/
def AlikeAt (path : List String) (v w : Json) : Prop := v = w ∨ Retokened path v w

namespace AlikeAt

variable {path : List String} {v w : Json} {key : String}

theorem refl (path : List String) (v : Json) : AlikeAt path v v := Or.inl rfl

theorem memberOfPresent (h : AlikeAt (key :: path) v w) :
    Matched (AlikeAt path) (v.memberOfPresent key) (w.memberOfPresent key) := by
  rcases h with rfl | h
  · exact .refl (refl path) _
  · obtain ⟨v', w', hv, hw, h⟩ := h.memberOfPresent
    rw [hv, hw]
    exact .ok (Or.inr h)

end AlikeAt

end Json

/-- The data are equal, or have another token. -/
def DataAlike (data data' : Fields) : Prop :=
  data = data' ∨ ∃ path ∈ tokenPaths, Json.Retokened path (.obj data) (.obj data')

theorem DataAlike.refl (data : Fields) : DataAlike data data := Or.inl rfl

/-- Data that are alike differ under the first key of one path to a token at most. -/
theorem DataAlike.exists_path {data data' : Fields} (h : DataAlike data data') (key : String) :
    Fields.get data key = Fields.get data' key ∨
      ∃ rest, key :: rest ∈ tokenPaths ∧
        Json.Retokened rest (Fields.get data key) (Fields.get data' key) := by
  rcases h with rfl | ⟨path, hpath, h⟩
  · exact Or.inl rfl
  cases path with
  | nil => cases h
  | cons head rest =>
    obtain ⟨fields, fields', hdata, hdata', hhead, hother⟩ := h.exists_fields
    cases hdata
    cases hdata'
    by_cases hkey : key = head
    · subst hkey
      exact Or.inr ⟨rest, hpath, hhead⟩
    · exact Or.inl (hother key hkey)

/-- What stands under the first key of a path to a token is alike along the rest of the path. -/
theorem DataAlike.get {data data' : Fields} (h : DataAlike data data') (key : String)
    {rest : List String} (hrest : ∀ path, key :: path ∈ tokenPaths → path = rest) :
    Json.AlikeAt rest (Fields.get data key) (Fields.get data' key) := by
  rcases h.exists_path key with heq | ⟨path, hpath, h⟩
  · exact Or.inl heq
  · rw [← hrest path hpath]
    exact Or.inr h

/-- Nothing differs under a key that no path to a token starts with. -/
theorem DataAlike.get_eq {data data' : Fields} (h : DataAlike data data') {key : String}
    (hkey : key ∉ tokenPaths.map (·.headD "")) : Fields.get data key = Fields.get data' key := by
  rcases h.exists_path key with heq | ⟨path, hpath, -⟩
  · exact heq
  · exact absurd (List.mem_map_of_mem hpath) hkey

/-! ## Add-ons that are alike -/

/-- The add-ons are the same but for their tokens, which are both there or both missing. -/
def AddOn.Alike (addOn addOn' : AddOn) : Prop :=
  addOn.id = addOn'.id ∧ addOn.name = addOn'.name ∧ (addOn.token = "" ↔ addOn'.token = "")

theorem AddOn.Alike.refl (addOn : AddOn) : addOn.Alike addOn := ⟨rfl, rfl, Iff.rfl⟩

/-- The text of a token that is there is the token. -/
theorem display_token {token : String} (h : token ≠ "") :
    ((Json.str token).orElse (.str "")).display = token := by
  have hpresent : (Json.str token).isPresent = true := bne_iff_ne.mpr h
  unfold Json.orElse
  rw [if_pos hpresent]
  rfl

/-- Add-ons that differ in a token are read as such. -/
theorem AddOn.ofJson_alike {v w : Json} (h : Json.AlikeAt ["token"] v w) :
    Matched AddOn.Alike (AddOn.ofJson v) (AddOn.ofJson w) := by
  rcases h with rfl | h
  · exact .refl AddOn.Alike.refl _
  obtain ⟨fields, fields', rfl, rfl, htoken, hother⟩ := h.exists_fields
  unfold AddOn.ofJson
  simp only [Json.member, Bind.bind, Except.bind, hother "id" (by decide),
    hother "name" (by decide)]
  generalize Fields.get fields "token" = v, Fields.get fields' "token" = w at htoken
  cases htoken with
  | text hne hne' =>
    cases (Fields.get fields' "id").optionalText "id" with
    | error fault => exact .error _
    | ok id =>
      refine .ok ⟨rfl, rfl, ?_⟩
      simp only [display_token hne, display_token hne', hne, hne']

/-! ## Replies that are alike

  Two replies are alike if they are the same, or if they are answered with 200 and one body is the
  other retokened.  A token is below the data, so the errors are the same in both, and where there
  are any both replies are refused for them in the same words. -/

/-- The bodies are the same value but for a token in its data. -/
def BodyRetokened (payload payload' : List UInt8) : Prop :=
  ∃ path ∈ tokenPaths, ∃ v w, Envelope.parse? payload = some v ∧ Envelope.parse? payload' = some w ∧
    Json.Retokened ("data" :: path) v w

/-- The bodies are equal, or the second is the first retokened. -/
def BodyAlike (payload payload' : List UInt8) : Prop :=
  payload = payload' ∨ BodyRetokened payload payload'

theorem BodyAlike.refl (payload : List UInt8) : BodyAlike payload payload := Or.inl rfl

/-- The replies are equal, or accepted with bodies that differ in a token only. -/
def Reply.Alike (reply reply' : Reply) : Prop :=
  reply = reply' ∨ ∃ payload payload', reply = .answered 200 payload ∧
    reply' = .answered 200 payload' ∧ BodyRetokened payload payload'

/-- A body that is read is not empty. -/
theorem Envelope.ne_nil_of_parse? {payload : List UInt8} {v : Json} (h : parse? payload = some v) :
    payload ≠ [] := by
  rintro rfl
  cases h

theorem Envelope.body_of_parse? {payload : List UInt8} {v : Json} (h : parse? payload = some v) :
    body payload = v := by
  unfold body
  rw [if_neg (ne_nil_of_parse? h), h]
  rfl

/-- Where there are errors, nothing else of the body is looked at. -/
theorem Envelope.read_eq_of_errors {payload payload' : List UInt8} {v w : Json}
    (hv : parse? payload = some v) (hw : parse? payload' = some w)
    (herrors : field v "errors" = field w "errors")
    (hpresent : (field w "errors").isPresent = true) : read 200 payload = read 200 payload' := by
  unfold read
  rw [body_of_parse? hv, body_of_parse? hw]
  simp only [herrors, hpresent, if_true]

/-- Where there are none, the data are the object under the key `data`. -/
theorem Envelope.read_eq_ok {payload : List UInt8} {v : Json} {data : Fields}
    (hv : parse? payload = some v) (habsent : ¬ (field v "errors").isPresent = true)
    (hdata : field v "data" = .obj data) : read 200 payload = .ok data := by
  unfold read
  rw [body_of_parse? hv]
  simp only [hdata, if_neg habsent, ne_eq, not_true_eq_false, if_false]

/-- **What is read of retokened bodies matches**: the same fault, or data that are alike. -/
theorem BodyRetokened.read {payload payload' : List UInt8} (h : BodyRetokened payload payload') :
    Matched DataAlike (Envelope.read 200 payload) (Envelope.read 200 payload') := by
  obtain ⟨path, hpath, v, w, hv, hw, h⟩ := h
  obtain ⟨fields, fields', rfl, rfl, hdata, hother⟩ := h.exists_fields
  have herrors : Fields.get fields "errors" = Fields.get fields' "errors" := hother _ (by decide)
  by_cases hpresent : (Fields.get fields' "errors").isPresent = true
  · rw [Envelope.read_eq_of_errors hv hw herrors hpresent]
    exact .refl DataAlike.refl _
  · have habsent : ¬ (Fields.get fields "errors").isPresent = true := by rwa [herrors]
    -- a path to a token has a first key, so the data are objects
    cases path with
    | nil => exact absurd hpath (by decide)
    | cons key rest =>
      obtain ⟨data, data', hget, hget', -⟩ := hdata.exists_fields
      rw [Envelope.read_eq_ok hv habsent hget, Envelope.read_eq_ok hw hpresent hget']
      rw [hget, hget'] at hdata
      exact .ok (Or.inr ⟨_, hpath, hdata⟩)

/-- Of retokened bodies, both list nothing. -/
theorem BodyRetokened.readList {payload payload' : List UInt8} (h : BodyRetokened payload payload')
    (app : String) : Machines.readList app payload = Machines.readList app payload' := by
  obtain ⟨path, -, v, w, hv, hw, h⟩ := h
  obtain ⟨fields, fields', rfl, rfl, -⟩ := h.exists_fields
  unfold Machines.readList Machines.payloadValue?
  rw [if_neg (Envelope.ne_nil_of_parse? hv), if_neg (Envelope.ne_nil_of_parse? hw), hv, hw]

/-- Of retokened bodies, the same machine is read: a machine has no data. -/
theorem BodyRetokened.readLaunch {payload payload' : List UInt8}
    (h : BodyRetokened payload payload') (app : String) (launch : Launch) :
    Machines.readLaunch app launch payload = Machines.readLaunch app launch payload' := by
  obtain ⟨path, -, v, w, hv, hw, h⟩ := h
  obtain ⟨fields, fields', rfl, rfl, -, hother⟩ := h.exists_fields
  have hread : Machine.ofJson (.obj fields) = Machine.ofJson (.obj fields') := by
    unfold Machine.ofJson
    simp only [Json.member, hother "config" (by decide), hother "id" (by decide),
      hother "name" (by decide), hother "state" (by decide), hother "region" (by decide)]
  unfold Machines.readLaunch Machines.payloadValue?
  rw [if_neg (Envelope.ne_nil_of_parse? hv), if_neg (Envelope.ne_nil_of_parse? hw), hv, hw]
  simp only [Machines.machine, hother "id" (by decide), hread]

end LogDrain
