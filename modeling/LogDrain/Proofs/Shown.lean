/-
  RECORDS AS SHOWN: what an app and a machine have in each field, whatever value they are read from.

  A field of a record is found at the end of a path in a value, where a step that leads nowhere ends
  at null (`Json.lookUp`).  Ids, names and slugs are shown as texts, whatever stands there; the
  other fields of a machine are texts or nothing.  So a record is a function of its value
  (`App.shownBy`, `Machine.shownBy`), and reading it either gives this record or stops at a wrong
  shape (`App.ofJson_eq_ok_iff`, `Machine.ofJson_eq_ok_iff`).
-/
import LogDrain.Proofs.Misshapen

namespace LogDrain

/-! ## Looking up

  To look up a path in a value is a total function, with nothing where the path ends early.  So
  what is shown of a record can be written down before it is known that the record can be read. -/

namespace Json

/-- What stands at the end of the path; null where the path does not lead on. -/
def lookUp : Json → List String → Json
  | v, [] => v
  | .obj fields, key :: path => (Fields.get fields key).lookUp path
  | _, _ :: _ => .null

@[simp] theorem lookUp_nil (v : Json) : v.lookUp [] = v := by
  cases v <;> rfl

@[simp] theorem lookUp_obj (fields : Fields) (key : String) (path : List String) :
    (Json.obj fields).lookUp (key :: path) = (Fields.get fields key).lookUp path := rfl

/-- What a path leads to is found by looking it up, and nothing else that is not null is. -/
theorem lookUp_eq_iff {v w : Json} {path : List String} (hw : w ≠ .null) :
    v.lookUp path = w ↔ v.LeadsTo path w := by
  induction path generalizing v with
  | nil => rw [lookUp_nil, LeadsTo]
  | cons key path ih =>
    cases v with
    | obj fields =>
      rw [lookUp_obj, ih]
      exact ⟨fun h => ⟨fields, rfl, h⟩, LeadsTo.step⟩
    | null | bool | int | real | str | arr =>
      refine iff_of_false (fun hnull => hw hnull.symm) ?_
      rintro ⟨fields, hobj, -⟩
      cases hobj

/-- The text, where there is one. -/
def text? : Json → Option String
  | .str s => some s
  | _ => none

theorem optionalText_eq_ok {v : Json} {field : String} {text : Option String}
    (h : v.optionalText field = .ok text) : text = v.text? := by
  cases v with
  | null | str =>
    cases h
    rfl
  | bool | int | real | arr | obj => cases h

end Json

/-! ## Apps -/

/-- The app that is read from the value: ids, names and slugs as they are shown, the slug for a raw
    slug that is nothing. -/
def App.shownBy (v : Json) : App :=
  { id := (v.lookUp ["id"]).display
    name := (v.lookUp ["name"]).display
    organization :=
      { id := (v.lookUp ["organization", "id"]).display
        slug := (v.lookUp ["organization", "slug"]).display
        rawSlug :=
          ((v.lookUp ["organization", "rawSlug"]).orElse
            (v.lookUp ["organization", "slug"])).display } }

/-- What is read of an app once its organization is found to be an object, or nothing at all. -/
theorem App.ofJson_of_fits {fields : Fields} (h : ¬ (Fields.get fields "organization").Misplaced) :
    App.ofJson (.obj fields) = .ok (.shownBy (.obj fields)) := by
  have hread : App.ofJson (.obj fields) =
      Organization.ofJson ((Fields.get fields "organization").orElse (.obj [])) >>= fun owner =>
        .ok ⟨(Fields.get fields "id").display, (Fields.get fields "name").display, owner⟩ := rfl
  rw [hread, shownBy]
  simp only [Json.lookUp_obj, Json.lookUp_nil]
  cases horg : Fields.get fields "organization" with
  | obj owner =>
    cases owner with
    | nil => rfl
    | cons => rfl
  | null | bool | int | real | str | arr =>
    -- what is no object has to be nothing, and is read as an object without fields
    rw [horg] at h
    have habsent : ∀ other, Json.orElse _ other = other := fun other =>
      if_neg fun hpresent => h ⟨hpresent, nofun⟩
    rw [habsent]
    rfl

/-- **An app is read** from an object exactly if its organization is an object, or nothing; and then
    it is what the object shows. -/
theorem App.ofJson_eq_ok_iff {fields : Fields} {app : App} :
    App.ofJson (.obj fields) = .ok app ↔
      ¬ (Fields.get fields "organization").Misplaced ∧ app = .shownBy (.obj fields) := by
  constructor
  · intro h
    have hfits : ¬ (Fields.get fields "organization").Misplaced := by
      rw [← App.stops_ofJson, h]
      exact stopsWith_ok app
    rw [App.ofJson_of_fits hfits] at h
    exact ⟨hfits, (Except.ok.inj h).symm⟩
  · rintro ⟨hfits, rfl⟩
    exact App.ofJson_of_fits hfits

/-! ## Machines -/

/-- The machine that is read from the value: its id as it is shown, and the texts that it has. -/
def Machine.shownBy (v : Json) : Machine :=
  { id := (v.lookUp ["id"]).display
    name := (v.lookUp ["name"]).text?
    state := (v.lookUp ["state"]).text?
    region := (v.lookUp ["region"]).text?
    image := (v.lookUp ["config", "image"]).text? }

theorem Machine.eq_shownBy_of_ok {fields : Fields} {m : Machine}
    (h : Machine.ofJson (.obj fields) = .ok m) : m = .shownBy (.obj fields) := by
  unfold Machine.ofJson at h
  simp only [Json.member, bind, Except.bind] at h
  split at h
  · rename_i hname hstate hregion himage
    cases h
    rw [Json.optionalText_eq_ok hname, Json.optionalText_eq_ok hstate,
      Json.optionalText_eq_ok hregion, Json.optionalText_eq_ok himage]
    simp only [shownBy, Json.lookUp_obj, Json.lookUp_nil]
    -- the image is looked for where the configuration is an object
    cases Fields.get fields "config" with
    | obj config => simp
    | null | bool | int | real | str | arr => rfl
  · cases h

/-- **A machine is read** from an object exactly if its texts are texts or null; and then it is what
    the object shows. -/
theorem Machine.ofJson_eq_ok_iff {fields : Fields} {m : Machine} :
    Machine.ofJson (.obj fields) = .ok m ↔ ¬ MisfitMachine fields ∧ m = .shownBy (.obj fields) := by
  rw [← Machine.stops_ofJson]
  constructor
  · intro h
    refine ⟨?_, Machine.eq_shownBy_of_ok h⟩
    rw [h]
    exact stopsWith_ok m
  · rintro ⟨hfits, rfl⟩
    obtain ⟨m, hm⟩ := (stops_or_ok (Machine.ofJson (.obj fields))).resolve_left hfits
    rw [hm, Machine.eq_shownBy_of_ok hm]

example : App.shownBy (.obj [("id", .int 7), ("organization", .bool false)]) =
    ⟨"7", "None", ⟨"None", "None", "None"⟩⟩ := by decide +kernel

end LogDrain
