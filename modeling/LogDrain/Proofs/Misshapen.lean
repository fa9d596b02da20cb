/-
  MISSHAPEN REPLIES: which replies an operation stumbles over instead of refusing them.

  A reply that says no, or lacks what is asked for, is refused with a fault of its API.  Some
  replies are not even refused, because the operation takes a value for something that it is not:

    * `UnreadableErrors`   the errors are a number or a truth value, or one of them has an array or
                           an object for a code, and none before it says that something was not
                           found;
    * `Query.Misfit`       in the data, something that is no object stands on the way to what is
                           read (`Query.objectPaths`), or an id is no text (`Query.textPaths`);
    * `MisfitMachine`      a machine has a name, state, region or image that is no text.

  Elsewhere the same operations do look before they take: an add-on, an app or a node that is no
  object is refused or passed over.  `misshapen_iff` says that these are exactly the replies that
  are misread.
-/
import LogDrain.Proofs.Path

namespace LogDrain

/-! ## Readings that stop

  `StopsWith P` is "it stops with a fault of which `P` holds", and has a law for each way in which
  readings are put together: bind, a row, and a fault turned into another.  With `P` true of every
  fault it is "it stops". -/

section Readings

variable {α β ε δ : Type} {P : ε → Prop}

/-- The reading stops with such a fault. -/
def StopsWith (P : ε → Prop) (e : Except ε α) : Prop := ∃ fault, e = .error fault ∧ P fault

/-- The reading stops. -/
abbrev Stops (e : Except ε α) : Prop := StopsWith (fun _ => True) e

@[simp] theorem stopsWith_ok (a : α) : ¬ StopsWith P (.ok a : Except ε α) := nofun

@[simp] theorem stopsWith_error {fault : ε} :
    StopsWith P (.error fault : Except ε α) ↔ P fault := by
  refine ⟨fun ⟨other, h, hP⟩ => ?_, fun hP => ⟨fault, rfl, hP⟩⟩
  cases h
  exact hP

theorem stops_or_ok (e : Except ε α) : Stops e ∨ ∃ a, e = .ok a := by
  cases e with
  | error fault => exact Or.inl (stopsWith_error.mpr trivial)
  | ok a => exact Or.inr ⟨a, rfl⟩

/-- A reading in two steps stops in the first or in the second. -/
theorem stopsWith_bind {x : Except ε α} {f : α → Except ε β} :
    StopsWith P (x >>= f) ↔ StopsWith P x ∨ ∃ a, x = .ok a ∧ StopsWith P (f a) := by
  cases x with
  | error fault =>
    show StopsWith P (.error fault : Except ε β) ↔ _
    simp
  | ok a =>
    show StopsWith P (f a) ↔ _
    simp

/-- To stop with a fault of another kind is to stop with one that becomes it. -/
@[simp] theorem stopsWith_mapError {e : Except ε α} {f : ε → δ} {Q : δ → Prop} :
    StopsWith Q (e.mapError f) ↔ StopsWith (fun fault => Q (f fault)) e := by
  cases e with
  | error fault =>
    show StopsWith Q (.error (f fault) : Except δ α) ↔ _
    simp
  | ok a => exact ⟨nofun, nofun⟩

/-- **A list stops being read at the first entry that stops.** -/
theorem stopsWith_mapM {f : α → Except ε β} {as : List α} :
    StopsWith P (as.mapM f) ↔ ∃ before a after, as = before ++ a :: after ∧
      (∀ b ∈ before, ∃ value, f b = .ok value) ∧ StopsWith P (f a) := by
  induction as with
  | nil =>
    refine ⟨nofun, ?_⟩
    rintro ⟨before, a, after, h, -⟩
    cases before <;> cases h
  | cons first rest ih =>
    rw [List.mapM_cons, stopsWith_bind]
    -- the first entry decides, or the others do behind an entry that was read
    constructor
    · rintro (hfirst | ⟨value, hvalue, hrest⟩)
      · exact ⟨[], first, rest, rfl, nofun, hfirst⟩
      · obtain hrest | ⟨values, -, hdone⟩ := stopsWith_bind.mp hrest
        · obtain ⟨before, a, after, rfl, hbefore, ha⟩ := ih.mp hrest
          refine ⟨first :: before, a, after, rfl, ?_, ha⟩
          exact List.forall_mem_cons.mpr ⟨⟨value, hvalue⟩, hbefore⟩
        · exact absurd hdone (stopsWith_ok _)
    · rintro ⟨before, a, after, h, hbefore, ha⟩
      cases before with
      | nil =>
        cases h
        exact Or.inl ha
      | cons b before =>
        cases h
        obtain ⟨⟨value, hvalue⟩, hbefore⟩ := List.forall_mem_cons.mp hbefore
        have hrest := ih.mpr ⟨before, a, after, rfl, hbefore, ha⟩
        exact Or.inr ⟨value, hvalue, stopsWith_bind.mpr (Or.inl hrest)⟩

/-- A list stops being read if any of its entries stops. -/
theorem stops_mapM {f : α → Except ε β} {as : List α} :
    Stops (as.mapM f) ↔ ∃ a ∈ as, Stops (f a) := by
  constructor
  · intro h
    obtain ⟨before, a, after, rfl, -, ha⟩ := stopsWith_mapM.mp h
    exact ⟨a, List.mem_append_right _ List.mem_cons_self, ha⟩
  · rintro ⟨a, hmem, ha⟩
    induction as with
    | nil => cases hmem
    | cons first rest ih =>
      rw [List.mapM_cons]
      refine stopsWith_bind.mpr ?_
      -- if the first stops the whole does; otherwise the one that stops is further on
      cases hfirst : f first with
      | error fault => exact Or.inl (stopsWith_error.mpr trivial)
      | ok value =>
        refine Or.inr ⟨value, rfl, stopsWith_bind.mpr (Or.inl (ih ?_))⟩
        rcases List.mem_cons.mp hmem with rfl | hmem
        · rw [hfirst] at ha
          exact absurd ha (stopsWith_ok _)
        · exact hmem

end Readings

/-- A wrong shape. -/
def Fault.IsShape : Fault → Prop
  | .shape _ => True
  | _ => False

@[simp] theorem Fault.isShape_shape (fault : ShapeFault) :
    Fault.IsShape (.shape fault) ↔ True :=
  Iff.rfl

/-- The reading stops with a wrong shape. -/
abbrev Misread {α : Type} (e : Except Fault α) : Prop := StopsWith Fault.IsShape e

/-! ## Values of a wrong shape

  Each step of a reading takes a value to be something, and stops at what is not that.  The four
  notions here are the four mistakes there are: no object where one is looked into, nothing to go
  through, no text, and a code that cannot be looked up. -/

namespace Json

/-- Something stands here, but no object. -/
def Misplaced (v : Json) : Prop := v.isPresent = true ∧ ∀ fields, v ≠ .obj fields

/-- Something stands here that has no items at all: a number or a truth value. -/
def Unwalkable (v : Json) : Prop :=
  v.isPresent = true ∧ ((∃ b, v = .bool b) ∨ (∃ n, v = .int n) ∨ ∃ x, v = .real x)

/-- The value is neither a text nor null. -/
def NoText (v : Json) : Prop := v ≠ .null ∧ ∀ s, v ≠ .str s

/-- The value is an array or an object. -/
def Compound (v : Json) : Prop := (∃ items, v = .arr items) ∨ ∃ fields, v = .obj fields

theorem not_misplaced_null : ¬ Json.null.Misplaced := fun h => nomatch h.1

/-- Reading a member stops at everything but an object. -/
theorem stops_member {v : Json} {key : String} :
    Stops (v.member key) ↔ ∀ fields, v ≠ .obj fields := by
  unfold member
  split
  · simp
  · rename_i hother
    simpa using hother

theorem orElse_ne_obj_iff {v : Json} :
    (∀ fields, v.orElse (.obj []) ≠ .obj fields) ↔ v.Misplaced := by
  unfold orElse Misplaced
  split
  · rename_i hpresent
    simp [hpresent]
  · rename_i habsent
    simp [habsent]

/-- Reading a member of what may be nothing stops at what is out of place: something, and no
    object. -/
@[simp] theorem stops_memberOfPresent {v : Json} {key : String} :
    Stops (v.memberOfPresent key) ↔ v.Misplaced :=
  stops_member.trans orElse_ne_obj_iff

/-- Going through the entries of something stops at what cannot be gone through. -/
theorem stops_elements {v : Json} (h : v.isPresent = true) : Stops v.elements ↔ v.Unwalkable := by
  unfold Unwalkable elements
  cases v <;> simp [h]

@[simp] theorem stops_elements_orElse {v : Json} :
    Stops (v.orElse (.arr [])).elements ↔ v.Unwalkable := by
  unfold orElse
  split
  · rename_i hpresent
    exact stops_elements hpresent
  · rename_i habsent
    simp [elements, Unwalkable, habsent]

/-- A text that may be left out stops at what is neither a text nor null. -/
@[simp] theorem stops_optionalText {v : Json} (field : String) :
    Stops (v.optionalText field) ↔ v.NoText := by
  unfold optionalText NoText
  cases v <;> simp

end Json

/-- The machine has a name, state, region or image that is neither a text nor null. -/
def MisfitMachine (fields : Fields) : Prop :=
  (∃ key ∈ ["name", "state", "region"], (Fields.get fields key).NoText) ∨
    ∃ config, Fields.get fields "config" = .obj config ∧ (Fields.get config "image").NoText

/-- An organization is read from an object and from nothing else; what its fields hold makes no
    difference. -/
theorem Organization.stops_ofJson {v : Json} :
    Stops (Organization.ofJson v) ↔ ∀ fields, v ≠ .obj fields := by
  cases v with
  | obj fields => exact ⟨fun h => absurd h (stopsWith_ok _), fun h => absurd rfl (h fields)⟩
  | _ => exact ⟨fun _ => nofun, fun _ => ⟨_, rfl, trivial⟩⟩

/-- An app is misread if something that is no object stands for its organization. -/
@[simp] theorem App.stops_ofJson {fields : Fields} :
    Stops (App.ofJson (.obj fields)) ↔ (Fields.get fields "organization").Misplaced := by
  have howner := @Organization.stops_ofJson ((Fields.get fields "organization").orElse (.obj []))
  rw [Json.orElse_ne_obj_iff] at howner
  rw [← howner]
  show Stops (Organization.ofJson ((Fields.get fields "organization").orElse (.obj [])) >>=
    fun owner => (.ok ⟨(Fields.get fields "id").display, (Fields.get fields "name").display,
      owner⟩ : Except ShapeFault App)) ↔ _
  refine Iff.trans stopsWith_bind (or_iff_left ?_)
  rintro ⟨owner, -, hread⟩
  exact stopsWith_ok _ hread

/-- An add-on is misread if its id is neither a text nor null. -/
@[simp] theorem AddOn.stops_ofJson {fields : Fields} :
    Stops (AddOn.ofJson (.obj fields)) ↔ (Fields.get fields "id").NoText := by
  rw [← Json.stops_optionalText "id"]
  unfold AddOn.ofJson
  simp only [Json.member, bind, Except.bind]
  cases (Fields.get fields "id").optionalText "id" with
  | ok id => exact ⟨fun h => absurd h (stopsWith_ok _), fun h => absurd h (stopsWith_ok _)⟩
  | error fault => exact ⟨fun _ => ⟨fault, rfl, trivial⟩, fun _ => ⟨_, rfl, trivial⟩⟩

/-- The image that stands in a configuration. -/
theorem noText_image {v : Json} :
    Json.NoText (match v with | .obj fields => Fields.get fields "image" | _ => .null) ↔
      ∃ config, v = .obj config ∧ (Fields.get config "image").NoText := by
  cases v with
  | obj config => simp
  | _ => simp [Json.NoText]

/-- A machine is misread if one of its texts is none. -/
@[simp] theorem Machine.stops_ofJson {fields : Fields} :
    Stops (Machine.ofJson (.obj fields)) ↔ MisfitMachine fields := by
  unfold MisfitMachine
  rw [← noText_image]
  simp only [List.mem_cons, List.not_mem_nil, or_false, exists_eq_or_imp, exists_eq_left, or_assoc]
  rw [← Json.stops_optionalText "name", ← Json.stops_optionalText "state",
    ← Json.stops_optionalText "region", ← Json.stops_optionalText "image"]
  unfold Machine.ofJson
  simp only [Json.member, bind, Except.bind]
  -- all four are texts, or the record fails as a whole
  split
  · rename_i hname hstate hregion himage
    refine iff_of_false (stopsWith_ok _) ?_
    rintro (⟨_, h, -⟩ | ⟨_, h, -⟩ | ⟨_, h, -⟩ | ⟨_, h, -⟩)
    · cases hname.symm.trans h
    · cases hstate.symm.trans h
    · cases hregion.symm.trans h
    · cases himage.symm.trans h
  · rename_i hnone
    refine iff_of_true ⟨_, rfl, trivial⟩ ?_
    rcases stops_or_ok (Json.optionalText "name" (Fields.get fields "name")) with h | ⟨_, hname⟩
    · exact Or.inl h
    rcases stops_or_ok (Json.optionalText "state" (Fields.get fields "state")) with h | ⟨_, hstate⟩
    · exact Or.inr (Or.inl h)
    rcases stops_or_ok (Json.optionalText "region" (Fields.get fields "region")) with h |
      ⟨_, hregion⟩
    · exact Or.inr (Or.inr (Or.inl h))
    refine Or.inr (Or.inr (Or.inr ((stops_or_ok _).resolve_right ?_)))
    rintro ⟨_, himage⟩
    exact hnone _ _ _ _ hname hstate hregion himage

/-! ## Errors that cannot be gone through

  The errors are gone through from the front until one says "not found".  So a code that cannot be
  looked up matters only if no error before it says so: what is misread depends on the order,
  unlike what is told. -/

/-- The code of the error is an array or an object. -/
def HasCompoundCode (error : Fields) : Prop :=
  ∃ extensions, Fields.get error "extensions" = .obj extensions ∧
    (Fields.get extensions "code").Compound

/-- The errors cannot be walked over; or one of them has a compound code, and none before it says
    that something was not found. -/
def UnreadableErrors (errors : Json) : Prop :=
  errors.Unwalkable ∨ ∃ entries before error after, errors = .arr entries ∧
    Json.objects entries = before ++ error :: after ∧
    (∀ other ∈ before, Envelope.saysNotFound other = .ok false) ∧ HasCompoundCode error

/-- The errors of the reply, whatever its status, cannot be gone through. -/
def HasUnreadableErrors (reply : Reply) : Prop :=
  ∃ status payload, reply = .answered status payload ∧
    UnreadableErrors (Envelope.field (Envelope.body payload) "errors")

namespace Envelope

/-- A code is compared with those that are known.  An array or an object cannot be, and that stops
    the reading. -/
theorem stops_codeSaysNotFound {v : Json} : Stops (codeSaysNotFound v) ↔ v.Compound := by
  unfold codeSaysNotFound Json.Compound
  cases v <;> simp

/-- An error stops the reading with its code, which is looked at only if its extensions are an
    object. -/
theorem stops_saysNotFound {error : Fields} :
    Stops (saysNotFound error) ↔ HasCompoundCode error := by
  unfold saysNotFound HasCompoundCode
  split
  · rename_i extensions hextensions
    rw [hextensions]
    -- there are extensions: the code decides
    have hcode := @stops_codeSaysNotFound (Fields.get extensions "code")
    cases h : codeSaysNotFound (Fields.get extensions "code") with
    | ok found =>
      rw [h] at hcode
      refine iff_of_false (stopsWith_ok _) ?_
      rintro ⟨_, hobj, hcompound⟩
      cases hobj
      exact stopsWith_ok _ (hcode.mpr hcompound)
    | error fault =>
      rw [h] at hcode
      exact iff_of_true ⟨fault, rfl, trivial⟩ ⟨_, rfl, hcode.mp ⟨fault, rfl, trivial⟩⟩
  · rename_i hother
    refine iff_of_false (stopsWith_ok _) ?_
    rintro ⟨extensions, hextensions, -⟩
    exact hother extensions hextensions

/-- The search for an error that says "not found" stops at a compound code, unless it has ended. -/
theorem stops_anySaysNotFound {errors : List Fields} :
    Stops (anySaysNotFound errors) ↔ ∃ before error after, errors = before ++ error :: after ∧
      (∀ other ∈ before, saysNotFound other = .ok false) ∧ HasCompoundCode error := by
  induction errors with
  | nil =>
    refine iff_of_false (stopsWith_ok _) ?_
    rintro ⟨before, error, after, h, -⟩
    cases before <;> cases h
  | cons first rest ih =>
    have hfirst := @stops_saysNotFound first
    unfold anySaysNotFound
    -- on the errors: the first either says it, or stops, or leaves the search to the others
    constructor
    · intro h
      split at h
      · rename_i hno
        obtain ⟨before, error, after, rfl, hbefore, herror⟩ := ih.mp h
        exact ⟨first :: before, error, after, rfl, List.forall_mem_cons.mpr ⟨hno, hbefore⟩, herror⟩
      · exact ⟨[], first, rest, rfl, nofun, hfirst.mp h⟩
    · rintro ⟨before, error, after, h, hbefore, herror⟩
      cases before with
      | nil =>
        cases h
        have hstops := hfirst.mpr herror
        split
        · rename_i hno
          rw [hno] at hstops
          exact absurd hstops (stopsWith_ok _)
        · exact hstops
      | cons other before =>
        cases h
        obtain ⟨hno, hbefore⟩ := List.forall_mem_cons.mp hbefore
        rw [hno]
        exact ih.mpr ⟨before, error, after, rfl, hbefore, herror⟩

/-- The refusal is a wrong shape exactly if the search for "not found" stopped: otherwise the search
    had an answer, and the refusal tells it. -/
theorem isShape_refusal {errors : List Fields} :
    (refusal errors).IsShape ↔ Stops (anySaysNotFound errors) := by
  unfold refusal
  cases anySaysNotFound errors with
  | error fault => simp [Fault.IsShape]
  | ok found => cases found <;> simp [Fault.IsShape]

/-- A reply is misread only for its errors. -/
theorem misread_read {status : Int} {payload : List UInt8} :
    Misread (read status payload) ↔ UnreadableErrors (field (body payload) "errors") := by
  unfold read UnreadableErrors
  simp only []
  generalize field (body payload) "errors" = errors
  split
  · rename_i hpresent
    have helements := Json.stops_elements hpresent
    cases hentries : errors.elements with
    | error fault =>
      rw [hentries] at helements
      exact iff_of_true (stopsWith_error.mpr trivial) (Or.inl (helements.mp ⟨fault, rfl, trivial⟩))
    | ok entries =>
      rw [hentries] at helements
      have hwalked : ¬ errors.Unwalkable := fun h => stopsWith_ok _ (helements.mpr h)
      show StopsWith Fault.IsShape (.error _) ↔ _
      rw [stopsWith_error, isShape_refusal, stops_anySaysNotFound, or_iff_right hwalked]
      constructor
      · rintro ⟨before, error, after, hsplit, hrest⟩
        have hne : Json.objects entries ≠ [] := by simp [hsplit]
        exact ⟨entries, before, error, after, Json.eq_arr_of_elements hentries hne, hsplit, hrest⟩
      · rintro ⟨others, before, error, after, rfl, hsplit, hrest⟩
        cases hentries
        exact ⟨before, error, after, hsplit, hrest⟩
  · rename_i habsent
    -- without errors, nothing else is misread
    refine iff_of_false ?_ ?_
    · split
      · simp [Fault.IsShape]
      · split <;> simp [Fault.IsShape]
    · rintro (⟨hpresent, -⟩ | ⟨entries, before, error, after, rfl, hsplit, -⟩)
      · exact habsent hpresent
      · cases entries with
        | nil => cases before <;> cases hsplit
        | cons => exact habsent rfl

end Envelope

/-! ## Data that do not fit

  Which places of the data an operation looks into is a table for each query.  The table is the
  specification: that an operation stops at these places and at no others is shown one operation
  after the other, in the next module. -/

/-- Where the operation looks for an object, or for nothing at all. -/
def Query.objectPaths : Query → List (List String)
  | .app _ => [["app", "organization"]]
  | .appsByRole .. => [["apps"]]
  | .createApp .. => [["createApp"], ["createApp", "app", "organization"]]
  | .createAddOn .. => [["createAddOn"]]
  | .createToken .. =>
    [["createLimitedAccessToken"], ["createLimitedAccessToken", "limitedAccessToken"]]
  | .nearestRegion => [["nearestRegion"]]
  | .addOn _ | .setSecrets .. => []

/-- Where the operation looks for a text or null. -/
def Query.textPaths : Query → List (List String)
  | .addOn _ => [["addOn", "id"]]
  | .createAddOn .. => [["createAddOn", "addOn", "id"]]
  | _ => []

/-- Where the operation looks for a list of apps. -/
def Query.listPaths : Query → List (List String)
  | .appsByRole .. => [["apps", "nodes"]]
  | _ => []

/-- The value is no list of apps: it cannot be walked over, or an object in it has something else
    than an object for its organization. -/
def MisfitApps (v : Json) : Prop :=
  v.Unwalkable ∨ ∃ nodes fields, v = .arr nodes ∧ .obj fields ∈ nodes ∧
    (Fields.get fields "organization").Misplaced

/-- The data have something of a wrong shape where the operation looks. -/
def Query.Misfit (q : Query) (data : Fields) : Prop :=
  (∃ path ∈ q.objectPaths, ∃ v, (Json.obj data).LeadsTo path v ∧ v.Misplaced) ∨
  (∃ path ∈ q.textPaths, ∃ v, (Json.obj data).LeadsTo path v ∧ v.NoText) ∨
  ∃ path ∈ q.listPaths, ∃ v, (Json.obj data).LeadsTo path v ∧ MisfitApps v

/-! ## Misshapen replies

  The Machines API has no envelope, so there it is the entries of an accepted body that can be
  wrong, and of a listing only the first that is. -/

/-- Of the objects listed, the first one that gives no machine has an id, but does not fit. -/
def MisfitMachines (items : List Json) : Prop :=
  ∃ before fields after, Json.objects items = before ++ fields :: after ∧
    (∀ other ∈ before, (Fields.get other "id").isPresent = true ∧ ¬ MisfitMachine other) ∧
    (Fields.get fields "id").isPresent = true ∧ MisfitMachine fields

/-- The reply is misread by the operation that asked for it. -/
inductive Misshapen : Exchange → Prop
  | errors {q reply} : HasUnreadableErrors reply → Misshapen (.query q, reply)
  | data {q reply data} : HasData reply data → q.Misfit data → Misshapen (.query q, reply)
  | listed {app status payload items} : (status = 200 ∨ status = 201) →
      Envelope.parse? payload = some (.arr items) → MisfitMachines items →
      Misshapen (.machines app .list, .answered status payload)
  | launched {app what status payload fields} : (status = 200 ∨ status = 201) →
      Envelope.parse? payload = some (.obj fields) → (Fields.get fields "id").isPresent = true →
      MisfitMachine fields → Misshapen (.machines app (.launch what), .answered status payload)

/-- A reply to a query is misshapen in its errors, or in its data if it has any. -/
theorem misshapen_query {q : Query} {reply : Reply} :
    Misshapen (.query q, reply) ↔
      HasUnreadableErrors reply ∨ ∃ data, HasData reply data ∧ q.Misfit data := by
  constructor
  · intro h
    cases h with
    | errors herrors => exact Or.inl herrors
    | data hdata hmisfit => exact Or.inr ⟨_, hdata, hmisfit⟩
  · rintro (herrors | ⟨data, hdata, hmisfit⟩)
    · exact .errors herrors
    · exact .data hdata hmisfit

end LogDrain
