/-
  VERDICTS: what a reply of the GraphQL API is taken for.

  One decision makes the difference between "it is not there", after which something is created, and
  "it failed", after which nothing is.  Here it is said of the bytes of a reply:

    * `ReadAs`         the value of a body; what cannot be read has no fields;
    * `SaysNotFound`   an error has the code for it, or has the words for it in its message;
    * `Reported`       what is reported of a list of errors, class and words;
    * `Judged`         all of it together: errors first, whatever the status, then the status, then
                       the data;
    * `Judges`         the same of a request, which may also be lost: then the API has failed.

  The search through the errors is replaced by "one of them says so" (`anySaysNotFound_eq`), where
  none of them has a code that cannot be looked up.  So neither the order of the errors nor what
  else stands among them makes a difference for the class of the fault.
-/
import LogDrain.Proofs.Misshapen

namespace LogDrain

/-! ## The value of a body

  No bytes, no text, and no JSON all count as nothing.  What the value is decides everything that
  follows; the bytes are not looked at again. -/

/-- The bytes are a JSON text of the value. -/
def Encodes (payload : List UInt8) (v : Json) : Prop :=
  ∃ cs, Text.Utf8.decode? payload = some cs ∧ Json.read cs = .ok v

/-- The bytes are no text, or a text that is not JSON. -/
inductive Unreadable : List UInt8 → Prop
  | damaged {payload} : Text.Utf8.decode? payload = none → Unreadable payload
  | garbled {payload cs fault} : Text.Utf8.decode? payload = some cs → Json.read cs = .error fault →
      Unreadable payload

namespace Envelope

theorem parse?_eq_some_iff {payload : List UInt8} {v : Json} :
    parse? payload = some v ↔ Encodes payload v := by
  unfold parse? Encodes
  cases Text.Utf8.decode? payload with
  | none => simp
  | some cs => cases hread : Json.read cs <;> simp [hread, Except.toOption]

theorem parse?_eq_none_iff {payload : List UInt8} : parse? payload = none ↔ Unreadable payload := by
  constructor
  · intro h
    cases hdecode : Text.Utf8.decode? payload with
    | none => exact .damaged hdecode
    | some cs =>
      cases hread : Json.read cs with
      | error fault => exact .garbled hdecode hread
      | ok v =>
        have hparse : parse? payload = some v := parse?_eq_some_iff.mpr ⟨cs, hdecode, hread⟩
        rw [h] at hparse
        cases hparse
  · intro h
    unfold parse?
    cases h with
    | damaged hdecode => rw [hdecode]
    | garbled hdecode hread => simp [hdecode, hread, Except.toOption]

end Envelope

/-- How the bytes of a body are read: where there are none, or none that are readable, they count as
    an object without fields. -/
inductive ReadAs : List UInt8 → Json → Prop
  | empty : ReadAs [] (.obj [])
  | unreadable {payload} : Unreadable payload → ReadAs payload (.obj [])
  | json {payload v} : payload ≠ [] → Encodes payload v → ReadAs payload v

theorem readAs_body (payload : List UInt8) : ReadAs payload (Envelope.body payload) := by
  unfold Envelope.body
  split
  · rename_i hempty
    rw [hempty]
    exact .empty
  · rename_i hne
    cases hparse : Envelope.parse? payload with
    | none => exact .unreadable (Envelope.parse?_eq_none_iff.mp hparse)
    | some v => exact .json hne (Envelope.parse?_eq_some_iff.mp hparse)

/-- A body has one value. -/
theorem ReadAs.eq_body {payload : List UInt8} {v : Json} (h : ReadAs payload v) :
    v = Envelope.body payload := by
  unfold Envelope.body
  cases h with
  | empty => rfl
  | unreadable hbytes =>
    rw [Envelope.parse?_eq_none_iff.mpr hbytes]
    split <;> rfl
  | json hne hencodes =>
    rw [if_neg hne, Envelope.parse?_eq_some_iff.mpr hencodes]
    rfl

/-! ## Errors that say "not found"

  An error says so with its code, or with its message, which is shown as a text whatever it is
  and searched in lower case.  A code that is no text says nothing, and one that cannot be
  compared stops the reading. -/

/-- The text, in lower case, has these words in it. -/
def Says (text words : String) : Prop :=
  ∃ before after, (Text.lower text).toList = before ++ (words.toList ++ after)

/-- The words by which a message says that something was not found. -/
def notFoundWords : List String := ["not find", "not found"]

/-- The text of an error's message. -/
def messageText (error : Fields) : String := (Fields.get error "message").display

/-- The error says that something was not found, by its code or by its message. -/
def SaysNotFound (error : Fields) : Prop :=
  (∃ extensions, Fields.get error "extensions" = .obj extensions ∧
    Fields.get extensions "code" = .str "NOT_FOUND") ∨
  ∃ words ∈ notFoundWords, Says (messageText error) words

/-- What a value that is nothing is shown as. -/
theorem Json.display_of_absent {v : Json} (h : v.isPresent = false) :
    v.display ∈ ["None", "False", "0", "0.0", "-0.0", "", "[]", "\x7b\x7d"] := by
  -- there are not many values that count as absent, so they can be looked at one by one
  cases v with
  | null => decide +kernel
  | bool b =>
    have hb : b = false := h
    subst hb
    decide +kernel
  | int n =>
    have hn : n = 0 := by simpa [isPresent] using h
    subst hn
    decide +kernel
  | real x =>
    cases x with
    | finite negative m q =>
      have hm : m = 0 := by simpa [isPresent, Decimal.Binary64.isZero] using h
      subst hm
      have htext : (Json.real (.finite negative 0 q)).display = (if negative then "-" else "") ++
        "0.0" :=
        String.ofList_toList
      rw [htext]
      cases negative <;> decide
    | nan | infinite => cases h
  | str s =>
    have hs : s = "" := by simpa [isPresent] using h
    subst hs
    decide
  | arr items =>
    have hitems : items = [] := by simpa [isPresent] using h
    subst hitems
    decide +kernel
  | obj fields =>
    have hfields : fields = [] := by simpa [isPresent] using h
    subst hfields
    decide +kernel

namespace Envelope

/-- A message says so if its text does, also where nothing stands for it. -/
theorem messageSaysNotFound_iff {message : Json} :
    messageSaysNotFound message = true ↔ ∃ words ∈ notFoundWords, Says message.display words := by
  have hsaid : messageSaysNotFound message = true ↔
      ∃ words ∈ notFoundWords, Says (message.orElse (.str "")).display words := by
    unfold messageSaysNotFound
    rw [Bool.or_eq_true, Text.hasWithin_iff, Text.hasWithin_iff]
    simp [notFoundWords, Says]
  rw [hsaid]
  unfold Json.orElse
  split
  · rfl
  · rename_i habsent
    -- nothing is shown in a few ways, and none of them has the words in it
    have hsilent : ∀ text ∈ ["None", "False", "0", "0.0", "-0.0", "", "[]", "\x7b\x7d"],
        ∀ words ∈ notFoundWords, Text.hasWithin words.toList (Text.lower text).toList = false := by
      decide +kernel
    have hnone : ∀ text ∈ ["None", "False", "0", "0.0", "-0.0", "", "[]", "\x7b\x7d"],
        ¬ ∃ words ∈ notFoundWords, Says text words := by
      rintro text htext ⟨words, hwords, hsaid⟩
      exact Bool.false_ne_true ((hsilent text htext words hwords).symm.trans
        (Text.hasWithin_iff.mpr hsaid))
    refine iff_of_false (hnone _ ?_) (hnone _ ?_)
    · show "" ∈ _
      decide
    · exact Json.display_of_absent (Bool.eq_false_iff.mpr habsent)

/-- A code that can be looked up says so if it is the one for it. -/
theorem codeSaysNotFound_eq {code : Json} (h : ¬ code.Compound) :
    ∃ b, codeSaysNotFound code = .ok b ∧ (b = true ↔ code = .str "NOT_FOUND") := by
  cases code with
  | arr items => exact absurd (Or.inl ⟨items, rfl⟩) h
  | obj fields => exact absurd (Or.inr ⟨fields, rfl⟩) h
  | str s => exact ⟨_, rfl, by simp [notFoundCode]⟩
  | null | bool | int | real => exact ⟨_, rfl, by simp⟩

/-- **An error whose code can be looked up** says "not found", or does not. -/
theorem saysNotFound_eq {error : Fields} (h : ¬ HasCompoundCode error) :
    ∃ b, saysNotFound error = .ok b ∧ (b = true ↔ SaysNotFound error) := by
  unfold saysNotFound SaysNotFound messageText
  rw [← messageSaysNotFound_iff]
  split
  · rename_i extensions hextensions
    have hcode : ¬ (Fields.get extensions "code").Compound := fun hcompound =>
      h ⟨extensions, hextensions, hcompound⟩
    obtain ⟨b, hb, hiff⟩ := codeSaysNotFound_eq hcode
    rw [hb, hextensions]
    refine ⟨_, rfl, ?_⟩
    rw [Bool.or_eq_true, hiff]
    simp
  · rename_i hother
    refine ⟨_, rfl, ?_⟩
    rw [or_iff_right]
    rintro ⟨extensions, hextensions, -⟩
    exact hother extensions hextensions

/-- **The search for an error that says "not found"** finds one if there is one. -/
theorem anySaysNotFound_eq {errors : List Fields} (h : ∀ error ∈ errors, ¬ HasCompoundCode error) :
    ∃ b, anySaysNotFound errors = .ok b ∧ (b = true ↔ ∃ error ∈ errors, SaysNotFound error) := by
  induction errors with
  | nil => exact ⟨false, rfl, by simp⟩
  | cons first rest ih =>
    obtain ⟨hfirst, hrest⟩ := List.forall_mem_cons.mp h
    obtain ⟨b, hb, hiff⟩ := saysNotFound_eq hfirst
    obtain ⟨found, hfound, hfoundIff⟩ := ih hrest
    have hsplit : (∃ error ∈ first :: rest, SaysNotFound error) ↔ b = true ∨ found = true := by
      rw [hiff, hfoundIff]
      exact List.exists_mem_cons_iff ..
    unfold anySaysNotFound
    rw [hb]
    cases b with
    | true => exact ⟨true, rfl, iff_of_true rfl (hsplit.mpr (Or.inl rfl))⟩
    | false => exact ⟨found, hfound, by rw [hsplit]; simp⟩

end Envelope

/-! ## What is reported

  The message is made of the messages of all errors, in their order; its class depends on whether
  one of them says "not found", and so not on their order. -/

/-- What is reported of errors: that something was not found, if one of them says so; else a
    failure.  The words are their messages in a row, and words of the class where they are none. -/
structure Reported (errors : List Fields) (fault : Fault) : Prop where
  notFound : (∃ error ∈ errors, SaysNotFound error) →
    fault.report =
      ⟨.notFound, textOr ("; ".intercalate (errors.map messageText)) "Resource not found"⟩
  refused : (∀ error ∈ errors, ¬ SaysNotFound error) →
    fault.report =
      ⟨.api, textOr ("; ".intercalate (errors.map messageText))
        "Fly GraphQL request returned errors"⟩

/-- The class of what is reported: one of two, and told by what the errors say. -/
theorem Reported.kind {errors : List Fields} {fault : Fault} (h : Reported errors fault) :
    (fault.kind = .notFound ↔ ∃ error ∈ errors, SaysNotFound error) ∧
      (fault.kind = .notFound ∨ fault.kind = .api) := by
  by_cases hsaid : ∃ error ∈ errors, SaysNotFound error
  · have hkind : fault.kind = .notFound := congrArg Report.kind (h.notFound hsaid)
    exact ⟨iff_of_true hkind hsaid, Or.inl hkind⟩
  · have hkind : fault.kind = .api := congrArg Report.kind (h.refused (by simpa using hsaid))
    refine ⟨iff_of_false ?_ hsaid, Or.inr hkind⟩
    rw [hkind]
    nofun

/-- Errors of which the same ones say "not found" are of one class. -/
theorem Reported.kind_eq {errors others : List Fields} {fault other : Fault}
    (h : Reported errors fault) (hother : Reported others other)
    (hsame : (∃ error ∈ errors, SaysNotFound error) ↔ ∃ error ∈ others, SaysNotFound error) :
    fault.kind = other.kind := by
  have hiff := h.kind.1.trans (hsame.trans hother.kind.1.symm)
  rcases h.kind.2 with hkind | hkind
  · exact hkind.trans (hiff.mp hkind).symm
  · refine hkind.trans (hother.kind.2.resolve_left fun hfound => ?_).symm
    have hclash := hkind.symm.trans (hiff.mpr hfound)
    cases hclash

theorem Envelope.reported_refusal {errors : List Fields}
    (h : ∀ error ∈ errors, ¬ HasCompoundCode error) : Reported errors (refusal errors) := by
  obtain ⟨b, hb, hiff⟩ := anySaysNotFound_eq h
  unfold refusal
  rw [hb]
  cases b with
  | true =>
    refine ⟨fun _ => rfl, fun hnone => ?_⟩
    obtain ⟨error, herror, hsaid⟩ := hiff.mp rfl
    exact absurd hsaid (hnone error herror)
  | false => exact ⟨fun hsaid => absurd (hiff.mpr hsaid) Bool.false_ne_true, fun _ => rfl⟩

example : (Envelope.refusal [[("message", .str "Could NOT find app")], []]).report =
    ⟨.notFound, "Could NOT find app; None"⟩ := by decide +kernel

/-! ## Verdicts

  Three things can come of a reply: data, a failure, and errors that are reported; and a loss is a
  failure. -/

/-- The errors of the value are this list: a list of something, in which every code can be looked
    up. -/
structure HasErrors (v : Json) (entries : List Json) : Prop where
  errors : Envelope.field v "errors" = .arr entries
  nonempty : entries ≠ []
  plain : ∀ error ∈ Json.objects entries, ¬ HasCompoundCode error

/-- What comes of a reply with this status, whose body has this value.  Without errors the data are
    returned exactly where the status is 200 and they are an object, and everything else is a
    failure; errors are reported whatever the status and the data are. -/
structure Judged (status : Int) (v : Json) (result : Except Fault Fields) : Prop where
  returned : (Envelope.field v "errors").isPresent = false → ∀ data,
    (result = .ok data ↔ status = 200 ∧ Envelope.field v "data" = .obj data)
  failed : (Envelope.field v "errors").isPresent = false → ∀ fault,
    result = .error fault → fault.kind = .api
  reported : ∀ entries, HasErrors v entries →
    ∃ fault, result = .error fault ∧ Reported (Json.objects entries) fault

namespace Envelope

theorem read_of_errors {status : Int} {payload : List UInt8} {entries : List Json}
    (h : field (body payload) "errors" = .arr entries) (hne : entries ≠ []) :
    read status payload = .error (refusal (Json.objects entries)) := by
  have hpresent : (Json.arr entries).isPresent = true := by simpa [Json.isPresent] using hne
  simp [read, h, hpresent, Json.elements]

/-- **A reply is judged** by its errors, its status and its data, in this order. -/
theorem judged_read (status : Int) (payload : List UInt8) :
    Judged status (body payload) (read status payload) where
  -- without errors the status decides, and then whether there are data
  returned habsent data := by
    simp only [read, habsent, Bool.false_eq_true, if_false]
    split
    · rename_i hstatus
      refine ⟨fun h => ?_, fun h => absurd h.1 hstatus⟩
      cases h
    · rename_i hstatus
      rw [Classical.not_not.mp hstatus]
      split
      · rename_i fields hdata
        rw [hdata]
        simp
      · rename_i hother
        refine ⟨fun h => ?_, fun h => absurd h.2 (hother data)⟩
        cases h
  failed habsent fault hfault := by
    simp only [read, habsent, Bool.false_eq_true, if_false] at hfault
    split at hfault
    · cases hfault
      rfl
    · split at hfault
      · cases hfault
      · cases hfault
        rfl
  reported entries h :=
    ⟨_, read_of_errors h.errors h.nonempty, reported_refusal h.plain⟩

end Envelope

/-- How an operation judges a reply.  An answer is judged by the value of its body; and for the
    class of the fault it makes no difference in which order the errors stand, nor which entries
    that are no objects stand among them.  A request that is lost in a known way is a failure of the
    API, and nothing is said to be missing. -/
structure Judges (ask : Reply → Except Fault Fields) : Prop where
  judged : ∀ status payload, ∃ v, ReadAs payload v ∧
    Judged status v (ask (.answered status payload))
  lost : ∀ loss, loss ≠ .other → ∃ fault, ask (.lost loss) = .error fault ∧ fault.kind = .api
  stable : ∀ status status' payload payload' v v' entries entries' others,
    ReadAs payload v → HasErrors v entries → ReadAs payload' v' →
    Envelope.field v' "errors" = .arr entries' → entries'.Perm (entries ++ others) →
    Json.objects others = [] →
    ∃ fault fault', ask (.answered status payload) = .error fault ∧
      ask (.answered status' payload') = .error fault' ∧ fault.kind = fault'.kind

/-- Entries in another order, with entries among them that are no objects, have the same objects. -/
theorem Json.mem_objects_of_perm {entries entries' others : List Json}
    (hperm : entries'.Perm (entries ++ others)) (hothers : objects others = []) (error : Fields) :
    error ∈ objects entries' ↔ error ∈ objects entries := by
  have hobjects : (objects entries').Perm (objects (entries ++ others)) := hperm.filterMap _
  have happend : objects (entries ++ others) = objects entries ++ objects others :=
    List.filterMap_append
  rw [hobjects.mem_iff, happend, hothers, List.append_nil]

theorem HasErrors.of_perm {v v' : Json} {entries entries' others : List Json}
    (h : HasErrors v entries)
    (herrors : Envelope.field v' "errors" = .arr entries')
    (hperm : entries'.Perm (entries ++ others))
    (hothers : Json.objects others = []) : HasErrors v' entries' where
  errors := herrors
  nonempty := by
    rintro rfl
    have hnil : entries ++ others = [] := hperm.nil_eq.symm
    exact h.nonempty (List.append_eq_nil_iff.mp hnil).1
  plain error herror := h.plain error ((Json.mem_objects_of_perm hperm hothers error).mp herror)

/-- **Every reply to every operation of the GraphQL API is judged so.** -/
theorem query_judges (q : Query) (replies : List Reply) :
    Judges fun reply => ((Platform.query q).run Procedure.nextReply (reply :: replies)).result := by
  -- on an answer, a query is the reading of its envelope
  have hread : ∀ status payload,
      ((Platform.query q).run Procedure.nextReply (.answered status payload :: replies)).result =
        Envelope.read status payload := by
    intro status payload
    rw [(Platform.asksOnce_query q).result_run, Platform.given_query]
    rfl
  refine ⟨fun status payload => ?_, fun loss hloss => ?_, ?_⟩
  · rw [hread]
    exact ⟨_, readAs_body payload, Envelope.judged_read status payload⟩
  · cases loss with
    | client | serverTimeout => exact ⟨.api .unreachable, rfl, rfl⟩
    | timeout => exact ⟨.api .timedOut, rfl, rfl⟩
    | other => exact absurd rfl hloss
  · intro status status' payload payload' v v' entries entries' others hv hentries hv' herrors hperm
      hothers
    have hentries' := hentries.of_perm herrors hperm hothers
    rw [hv.eq_body] at hentries
    rw [hv'.eq_body] at hentries'
    -- both faults are made of their own errors; which class they have depends on the set of errors
    -- only
    obtain ⟨fault, hfault, hreported⟩ := (Envelope.judged_read status payload).reported _ hentries
    obtain ⟨fault', hfault', hreported'⟩ :=
      (Envelope.judged_read status' payload').reported _ hentries'
    refine ⟨fault, fault', (hread _ _).trans hfault, (hread _ _).trans hfault', ?_⟩
    refine hreported.kind_eq hreported' ?_
    simp only [Json.mem_objects_of_perm hperm hothers]

end LogDrain
