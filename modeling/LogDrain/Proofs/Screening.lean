/-
  SCREENING: answers that do not do change nothing.

  The answers are looked at between the look-up of the app, which only reads, and everything else.
  So a setup that is refused for its answers has asked once, and was answered.  What makes answers
  unfit is said without the procedures (`Unfit`): the choice stands for no provider on offer, or it
  stands for one whose variables the operator fills in, and a key is not declared or a required
  variable not filled.

    1. `refuses_iff`        the answers are refused exactly if they are unfit;
    2. `Fault.IsOutward`    whatever comes after the screening stops with a fault of the remote
                            side, of the connection, or with a blank name that came from there;
    3. `ShipCourse.screened`  a setup fails to find its app, is refused, or passes the screening.

  `ship_screened` is these together for a run, whoever replies.  Three faults that the procedures
  know are never met in it: an add-on of no kind, no secrets to write, and a machine without an id.
-/
import LogDrain.Proofs.Breakage
import LogDrain.Proofs.Collected

namespace LogDrain

namespace Answers

variable {selection : Option String} {values : List (String × String)} {provider : Provider}

/-! ## Unfit answers

  The specification, of a choice and of values: nothing here is a procedure. -/

/-- The selection stands for the provider: but for blank ends and for case, it is its slug or
    name. -/
def Selects (selection : Option String) (provider : Provider) : Prop :=
  Text.lower (Text.trim (selection.getD "")) = Text.lower provider.slug ∨
    Text.lower (Text.trim (selection.getD "")) = Text.lower provider.name

/-- The answers do not do. -/
inductive Unfit (selection : Option String) (values : List (String × String)) : Prop
  | unknown : (∀ provider ∈ Provider.catalog, ¬ Selects selection provider) → Unfit selection values
  | undeclared {provider key} : provider ∈ Provider.catalog → Selects selection provider →
      provider.auto = false → key ∈ values.map (·.1) → key ∉ provider.allVars →
        Unfit selection values
  | unfilled {provider key} : provider ∈ Provider.catalog → Selects selection provider →
      provider.auto = false → key ∈ provider.requiredVars →
      (∀ value, values.lookup key = some value → Text.isBlankText value = true) →
      Unfit selection values

/-- What the screening refuses the answers with: the choice, or what was answered for it. -/
inductive Refuses (answers : Answers) : AnswersFault → Prop
  | choice {cause} : answers.select Provider.catalog = .error cause → Refuses answers cause
  | values {provider cause} : answers.select Provider.catalog = .ok provider →
      provider.auto = false →
      answers.collect provider = .error cause → Refuses answers cause

/-! ## The choice

  The choice is folded and trimmed before it is compared, so it may stand for a provider in many
  spellings, and the first provider that fits is taken. -/

/-- Slugs and names on offer are told apart in lower case, and none is empty. -/
theorem catalog_fits : ∀ p ∈ Provider.catalog,
    (Text.lower p.slug ≠ Text.lower "" ∧
      Provider.catalog.find? (fits (Text.lower p.slug)) = some p) ∧
    (Text.lower p.name ≠ Text.lower "" ∧
      Provider.catalog.find? (fits (Text.lower p.name)) = some p) := by
  decide +kernel

/-- Whether a provider fits is whether the selection stands for it. -/
theorem fits_iff : fits (Text.lower (of selection values).choice) provider = true ↔
    Selects selection provider := by
  rw [fits, Bool.or_eq_true, beq_iff_eq, beq_iff_eq]
  exact or_congr eq_comm eq_comm

/-- A provider is chosen if there is a choice and it is the first that fits. -/
theorem select_eq_ok_iff {offer : List Provider} :
    (of selection values).select offer = .ok provider ↔
    Text.trim (selection.getD "") ≠ "" ∧
      offer.find? (fits (Text.lower (of selection values).choice)) = some provider := by
  unfold select
  split
  · rename_i hempty
    exact iff_of_false nofun fun h => h.1 hempty
  · rename_i hchoice
    split
    · rename_i first hfind
      rw [hfind]
      exact ⟨fun h => ⟨hchoice, congrArg some (Except.ok.inj h)⟩, fun h =>
        congrArg _ (Option.some.inj h.2)⟩
    · rename_i hfind
      rw [hfind]
      exact iff_of_false nofun fun h => nomatch h.2

/-- A provider on offer that the selection stands for is the one that is chosen. -/
theorem select_of_selects (hoffer : provider ∈ Provider.catalog) (h : Selects selection provider) :
    (of selection values).select Provider.catalog = .ok provider := by
  obtain ⟨⟨hslug, hbySlug⟩, ⟨hname, hbyName⟩⟩ := catalog_fits provider hoffer
  have hfound : Text.lower (Text.trim (selection.getD "")) ≠ Text.lower "" ∧
      Provider.catalog.find? (fits (Text.lower (Text.trim (selection.getD "")))) =
        some provider := by
    rcases h with h | h
    · rw [h]
      exact ⟨hslug, hbySlug⟩
    · rw [h]
      exact ⟨hname, hbyName⟩
  have hchoice : Text.trim (selection.getD "") ≠ "" := fun hempty => hfound.1 (by rw [hempty])
  exact select_eq_ok_iff.mpr ⟨hchoice, hfound.2⟩

/-- What is chosen from the catalog is a provider that the choice stands for. -/
theorem selects_of_select (h : (of selection values).select Provider.catalog = .ok provider) :
    Selects selection provider :=
  fits_iff.mp (List.find?_some (select_eq_ok_iff.mp h).2)

/-- The choice is refused exactly if it stands for no provider of the catalog, be it blank, unknown
    or not given. -/
theorem select_error_iff : (∃ cause, (of selection values).select Provider.catalog = .error cause) ↔
    ∀ provider ∈ Provider.catalog, ¬ Selects selection provider := by
  constructor
  · rintro ⟨cause, hcause⟩ provider hoffer hselects
    cases (select_of_selects hoffer hselects).symm.trans hcause
  · intro hnone
    cases hselect : (of selection values).select Provider.catalog with
    | ok provider =>
      exact absurd (selects_of_select hselect) (hnone provider (Setup.mem_of_select hselect))
    | error cause => exact ⟨cause, rfl⟩

/-! ## The values

  Two checks, of which the first that finds something refuses the answers. -/

/-- Something is named as unexpected exactly if a key is given that the provider does not declare;
    how often it is given, and with which value, makes no difference. -/
theorem unexpected_ne_nil_iff {answers : Answers} :
    answers.unexpected provider ≠ [] ↔
      ∃ key ∈ answers.values.map (·.1), key ∉ provider.allVars := by
  rw [Ne, List.eq_nil_iff_forall_not_mem, not_forall_not]
  simp only [unexpected, sortTexts_eq_insertionSort, List.mem_insertionSort, List.mem_filter,
    Bool.not_eq_true', List.contains_eq_mem, decide_eq_false_iff_not]

/-- A variable is not filled if nothing was answered for it, or something blank. -/
theorem isFilled_eq_false_iff {answers : Answers} {key : String} :
    answers.isFilled key = false ↔
      ∀ value, answers.values.lookup key = some value → Text.isBlankText value = true := by
  unfold isFilled value
  cases answers.values.lookup key with
  | none => exact iff_of_true rfl nofun
  | some value => simp

/-- Something is named as missing exactly if a required variable has no value, or a blank one. -/
theorem missing_ne_nil_iff {answers : Answers} :
    answers.missing provider ≠ [] ↔ ∃ key ∈ provider.requiredVars,
      ∀ value, answers.values.lookup key = some value → Text.isBlankText value = true := by
  rw [Ne, List.eq_nil_iff_forall_not_mem, not_forall_not]
  simp only [missing, List.mem_filter, Bool.not_eq_true', isFilled_eq_false_iff]

/-- Values are refused for what is too much or for what is too little.  Which of the two is told
    first plays no part here. -/
theorem collect_error_iff (answers : Answers) : (∃ cause, answers.collect provider = .error cause) ↔
    answers.unexpected provider ≠ [] ∨ answers.missing provider ≠ [] := by
  unfold collect
  split
  · rename_i hunexpected
    exact iff_of_true ⟨_, rfl⟩ (Or.inl hunexpected)
  · rename_i hexpected
    split
    · rename_i hmissing
      exact iff_of_true ⟨_, rfl⟩ (Or.inr hmissing)
    · rename_i hfilled
      exact iff_of_false nofun (not_or.mpr ⟨hexpected, hfilled⟩)

/-- Once a provider is chosen, only the values can be refused. -/
theorem refuses_iff_of_select {answers : Answers} {cause : AnswersFault}
    (h : answers.select Provider.catalog = .ok provider) :
    answers.Refuses cause ↔ provider.auto = false ∧ answers.collect provider = .error cause := by
  constructor
  · intro hrefuses
    cases hrefuses with
    | choice hselect => cases h.symm.trans hselect
    | values hselect hauto hcollect =>
      cases h.symm.trans hselect
      exact ⟨hauto, hcollect⟩
  · rintro ⟨hauto, hcollect⟩
    exact .values h hauto hcollect

/-- **The answers are refused exactly if they are unfit.** -/
theorem refuses_iff : (∃ cause, (of selection values).Refuses cause) ↔ Unfit selection values := by
  constructor
  · rintro ⟨cause, hrefuses⟩
    -- from the procedures to the specification, by what was found
    cases hrefuses with
    | choice hselect => exact .unknown (select_error_iff.mp ⟨cause, hselect⟩)
    | @values provider _ hselect hauto hcollect =>
      have hoffer := Setup.mem_of_select hselect
      have hselects := selects_of_select hselect
      rcases (collect_error_iff _).mp ⟨cause, hcollect⟩ with hunexpected | hmissing
      · obtain ⟨key, hkey, hundeclared⟩ := unexpected_ne_nil_iff.mp hunexpected
        exact .undeclared hoffer hselects hauto hkey hundeclared
      · obtain ⟨key, hkey, hunfilled⟩ := missing_ne_nil_iff.mp hmissing
        exact .unfilled hoffer hselects hauto hkey hunfilled
  · intro hunfit
    -- and back, by what is wrong
    cases hunfit with
    | unknown hnone =>
      obtain ⟨cause, hcause⟩ := select_error_iff.mpr hnone
      exact ⟨cause, .choice hcause⟩
    | undeclared hoffer hselects hauto hkey hundeclared =>
      obtain ⟨cause, hcause⟩ := (collect_error_iff (of selection values)).mpr
        (Or.inl (unexpected_ne_nil_iff.mpr ⟨_, hkey, hundeclared⟩))
      exact ⟨cause, .values (select_of_selects hoffer hselects) hauto hcause⟩
    | unfilled hoffer hselects hauto hkey hunfilled =>
      obtain ⟨cause, hcause⟩ := (collect_error_iff (of selection values)).mpr
        (Or.inr (missing_ne_nil_iff.mpr ⟨_, hkey, hunfilled⟩))
      exact ⟨cause, .values (select_of_selects hoffer hselects) hauto hcause⟩

end Answers

/-! ## Faults from outside

  After the screening only what comes from outside can stop a setup.  This is a statement on each
  fault that an operation can refuse with, and there are few others. -/

/-- The fault comes from outside: a reply gave it, the connection broke, or a name from a reply is
    blank. -/
def Fault.IsOutward (fault : Fault) : Prop :=
  fault.IsRemote ∨ fault = .connection ∨ fault = .argument .blankApp

/-- The faults that are not met once the screening is passed. -/
def Fault.IsInward (fault : Fault) : Prop :=
  fault.kind ∈ [.answers, .addOnType, .settings] ∨ fault = .argument .noSecrets ∨
    fault = .argument .emptyMachineId

/-- A fault of the GraphQL API is told as one of that API, or as something that was not found. -/
theorem ApiFault.kind_mem (fault : ApiFault) : fault.kind = .api ∨ fault.kind = .notFound := by
  cases fault <;> simp [ApiFault.kind]

theorem MachinesFault.kind_mem (fault : MachinesFault) :
    fault.kind = .machines ∨ fault.kind = .notFound := by
  unfold MachinesFault.kind
  split
  · split <;> simp
  · exact Or.inl rfl

/-- The two are apart: no fault from outside is one that the answers, the settings or a step's own
    arguments could cause. -/
theorem Fault.IsOutward.not_isInward {fault : Fault} (h : fault.IsOutward) : ¬ fault.IsInward := by
  -- a fault of the remote side by its kind, then a broken connection and a blank name
  rcases h with hremote | rfl | rfl
  · cases fault with
    | api fault => rcases fault.kind_mem with h | h <;> simp [IsInward, kind, h]
    | machines app fault => rcases fault.kind_mem with h | h <;> simp [IsInward, kind, h]
    | shape fault => cases fault <;> simp [IsInward, kind, ShapeFault.kind]
    | _ => cases hremote
  · simp [IsInward, kind]
  · simp [IsInward, kind]

/-- **What an operation refuses a reply with comes from outside.** -/
theorem Exchange.isOutward_of_refusal {x : Exchange} (hask : x.1.IsAskable) {fault : Fault}
    (h : x.refusal? = some fault) : fault.IsOutward := by
  by_cases hlost : x.2 = .lost .other
  · obtain ⟨call, reply⟩ := x
    subst hlost
    rw [refusal?_lost hask] at h
    cases call <;> cases h <;> exact Or.inr (Or.inl rfl)
  · exact Or.inl (isRemote_of_refusal hask hlost h)

namespace Setup

open Procedure

variable {α β : Type} {xs : List Exchange}

/-! ## What the steps stop with

  One law for each course, put together by `Then.endsOutward`. -/

/-- The result is no fault, or one from outside. -/
def EndsOutward (r : Except Fault α) : Prop := ∀ fault, r = .error fault → fault.IsOutward

theorem endsOutward_ok (value : α) : EndsOutward (.ok value : Except Fault α) := nofun

theorem endsOutward_error {fault : Fault} (h : fault.IsOutward) :
    EndsOutward (.error fault : Except Fault α) := by
  rintro _ ⟨⟩
  exact h

/-- A blank name that stops a step came from the remote side, since the app that was asked for was
    found. -/
theorem endsOutward_blank : EndsOutward (.error (.argument .blankApp) : Except Fault α) :=
  endsOutward_error (Or.inr (Or.inr rfl))

/-- A procedure that asks its call ends with what the operation makes of the reply. -/
theorem endsOutward_of_given (call : Call) {p : Procedure α} {reply : Reply} {fault : Fault}
    (hp : call.operation = p.forget) (hask : call.IsAskable) (h : p.given reply = .error fault) :
    EndsOutward (.error fault : Except Fault β) :=
  endsOutward_error (Exchange.isOutward_of_refusal hask (Exchange.refusal?_of_error hp h))

/-- One call stops with the refusal of its reply, and every refusal is from outside. -/
theorem Once.endsOutward {call : Call} {p : Procedure α} {r : Except Fault α} (h : Once call p xs r)
    (hp : call.operation = p.forget) (hask : call.IsAskable) : EndsOutward r := by
  obtain ⟨reply, -, hgiven⟩ := h.exists_reply
  rintro fault rfl
  exact Exchange.isOutward_of_refusal (x := (call, reply)) hask
    (Exchange.refusal?_of_error hp hgiven)

/-- Two steps stop from outside if each of them does. -/
theorem Then.endsOutward {P : Course α} {Q : α → Course β} {r : Except Fault β} (h : Then P Q xs r)
    (hP : ∀ {xs r}, P xs r → EndsOutward r)
    (hQ : ∀ {value xs r}, Q value xs r → EndsOutward r) : EndsOutward r := by
  cases h with
  | stopped hstop => exact endsOutward_error (hP hstop _ rfl)
  | went _ hrest => exact hQ hrest

/-- A step that asks for nothing and has a value does not stop at all. -/
theorem Plain.endsOutward {value : α} {r : Except Fault α} (h : Plain (.ok value) xs r) :
    EndsOutward r := by
  obtain ⟨-, rfl⟩ := h.eq
  exact endsOutward_ok value

/-- An add-on without a token is a fault of the API that showed it. -/
theorem endsOutward_heldToken (addOn : AddOn) : EndsOutward (heldToken addOn) := by
  unfold heldToken
  split
  · exact endsOutward_error (Or.inl trivial)
  · exact endsOutward_ok _

/-- The kind of add-on is known. -/
theorem AddOnCourse.endsOutward {target : App} {slug : String} {r : Except Fault String}
    (h : AddOnCourse target slug xs r) (hslug : Provider.addOnType? slug ≠ none) :
    EndsOutward r := by
  cases h with
  | found | created => exact endsOutward_heldToken _
  | failed hfound _ => exact endsOutward_of_given (addOnCall target) rfl trivial hfound
  | unsupported _ _ htype => exact absurd htype hslug
  | refused _ _ _ hmade => exact endsOutward_of_given (createAddOnCall target _) rfl trivial hmade

/-- Ensuring a machine stops from outside: it asks, or it has been given a blank name. -/
theorem MachineCourse.endsOutward {image : String} {shipper : App} {r : Except Fault Unit}
    (h : MachineCourse image shipper xs r) : EndsOutward r := by
  cases h with
  | blank => exact endsOutward_blank
  | found | launched => exact endsOutward_ok ()
  | unlisted _ hlist => exact endsOutward_of_given (listCall shipper) rfl trivial hlist
  | nowhere _ _ hregion => exact endsOutward_of_given regionCall rfl trivial hregion
  | refused _ _ _ hmade => exact endsOutward_of_given (launchCall image shipper _) rfl trivial hmade

theorem ShipperCourse.endsOutward {image : String} {organization : Organization}
    {r : Except Fault App} (h : ShipperCourse image organization xs r) : EndsOutward r := by
  cases h with
  | found => exact endsOutward_ok _
  | unlisted hlook => exact endsOutward_of_given (shippersCall organization) rfl trivial hlook
  | refused _ hmade => exact endsOutward_of_given (createShipperCall organization) rfl trivial hmade
  | created _ _ hequip => exact hequip.endsOutward MachineCourse.endsOutward Plain.endsOutward

/-- Writing secrets stops from outside; that there are none to write is seen before the call. -/
theorem SecretsCourse.endsOutward {shipper : App} {secrets : List Secret} {r : Except Fault Unit}
    (h : SecretsCourse shipper secrets xs r) : EndsOutward r := by
  unfold SecretsCourse at h
  split at h
  · exact h.endsOutward
  · rename_i hsome
    exact h.endsOutward rfl hsome

/-- The machines have ids. -/
theorem RestartCourse.endsOutward {app : String} {skip : Bool} {machines : List Machine}
    {r : Except Fault Unit} (h : RestartCourse app skip machines xs r)
    (hids : ∀ m ∈ machines, m.id ≠ "") : EndsOutward r := by
  induction h with
  | nil => exact endsOutward_ok ()
  | unnamed hid => exact absurd hid (hids _ List.mem_cons_self)
  | refused hid hreply => exact endsOutward_of_given (.machines app (.restart _)) rfl hid hreply
  | unready _ _ _ hready => exact endsOutward_of_given (.machines app (.wait ..)) rfl trivial hready
  | skipped _ _ _ _ ih => exact ih fun m hm => hids m (List.mem_cons_of_mem _ hm)
  | waited _ _ _ _ _ ih => exact ih fun m hm => hids m (List.mem_cons_of_mem _ hm)

theorem RedeployCourse.endsOutward {target : App} {skip : Bool} {r : Except Fault Nat}
    (h : RedeployCourse target skip xs r) : EndsOutward r := by
  cases h with
  | blank => exact endsOutward_blank
  | unlisted _ hlist => exact endsOutward_of_given (listCall target) rfl trivial hlist
  | @listed _ _ _ q _ hlist hrestart =>
    have hrestarted := hrestart.endsOutward (Machines.id_ne_empty hlist)
    cases q with
    | ok value => exact endsOutward_ok _
    | error fault => exact endsOutward_error (hrestarted fault rfl)

theorem DeployCourse.endsOutward {shipper : App} {secrets : List Secret} {r : Except Fault Nat}
    (h : DeployCourse shipper secrets xs r) : EndsOutward r := by
  refine Then.endsOutward h (fun hcredential => ?_) fun hrest =>
    hrest.endsOutward SecretsCourse.endsOutward RedeployCourse.endsOutward
  -- a token is written alone, so there is something to write
  exact Then.endsOutward hcredential (fun hissue => hissue.endsOutward rfl trivial)
    fun hwrite => hwrite.endsOutward rfl (List.cons_ne_nil _ _)

/-! ## The whole

  The look-up, the screening and the rest, and what the three say about the answers. -/

/-- The look-up that a setup begins with. -/
def appCall (appName : String) : Call := .query (.app appName)

/-- What a setup goes through, as far as its answers are concerned: the app is not found, the
    answers are refused, or they pass and what follows is up to the other side. -/
inductive Screening (appName : String) (answers : Answers) : Course Summary
  | unfound {reply fault} : (Platform.app appName).given reply = .error fault → fault.IsOutward →
      Screening appName answers [(appCall appName, reply)] (.error fault)
  | refused {reply target cause} : (Platform.app appName).given reply = .ok target →
      answers.Refuses cause →
      Screening appName answers [(appCall appName, reply)] (.error (.answers cause))
  | passed {reply target xs r} : (Platform.app appName).given reply = .ok target →
      (∀ cause, ¬ answers.Refuses cause) → EndsOutward r →
      Screening appName answers ((appCall appName, reply) :: xs) r

/-- What comes after the choice of a provider, once its secrets are there. -/
theorem endsOutward_of_provided {image : String} {target : App} {provider : Provider}
    {secrets : List Secret} {r : Except Fault Summary}
    (h : Then (ShipperCourse image target.organization) (fun shipper =>
      Then (MachineCourse image shipper) fun _ =>
        Then (DeployCourse shipper secrets) fun _ =>
          Plain (.ok (summaryOf target provider secrets shipper))) xs r) : EndsOutward r :=
  h.endsOutward ShipperCourse.endsOutward fun hequip =>
    hequip.endsOutward MachineCourse.endsOutward fun hdeploy =>
      hdeploy.endsOutward DeployCourse.endsOutward Plain.endsOutward

/-- Once a provider is chosen, its values are refused before anything else is asked, or there is
    nothing to refuse; an automatic provider takes nothing from the answers. -/
theorem ChosenCourse.screened {image : String} {target : App} {provider : Provider}
    {answers : Answers}
    {r : Except Fault Summary} (h : ChosenCourse image target provider answers xs r)
    (hoffer : provider ∈ Provider.catalog) :
    (∃ cause, provider.auto = false ∧ answers.collect provider = .error cause ∧ xs = [] ∧
      r = .error (.answers cause)) ∨
    (∀ cause, provider.auto = false → answers.collect provider ≠ .error cause) ∧ EndsOutward r := by
  unfold ChosenCourse at h
  cases hauto : provider.auto with
  | true =>
    -- an automatic provider looks at no answer, so all that can stop it comes from outside
    refine Or.inr ⟨nofun, h.endsOutward (fun hprovided => ?_) endsOutward_of_provided⟩
    unfold ProviderCourse at hprovided
    rw [if_pos hauto] at hprovided
    exact hprovided.endsOutward (fun haddOn => haddOn.endsOutward (addOnType?_ne_none hoffer hauto))
      Plain.endsOutward
  | false =>
    -- any other provider asks for nothing here: its answers are collected, or refused
    have hcollected : ProviderCourse target provider answers =
        Plain ((answers.collect provider).mapError .answers) := if_neg (by simp [hauto])
    rw [hcollected] at h
    cases hcollect : answers.collect provider with
    | ok secrets =>
      rw [hcollect] at h
      exact Or.inr ⟨nofun, h.endsOutward Plain.endsOutward endsOutward_of_provided⟩
    | error cause =>
      rw [hcollect] at h
      cases h with
      | stopped hplain =>
        obtain ⟨rfl, hfault⟩ := hplain.eq
        cases hfault
        exact Or.inl ⟨cause, rfl, rfl, rfl, rfl⟩
      | went hplain _ => cases hplain.eq.2

/-- **A setup fails to find its app, is refused, or passes.** -/
theorem ShipCourse.screened {image appName : String} {answers : Answers} {r : Except Fault Summary}
    (h : ShipCourse image appName answers xs r) : Screening appName answers xs r := by
  cases h with
  | stopped htarget =>
    -- the app was not found: nothing of the answers has been looked at
    have hfault := htarget.endsOutward rfl trivial _ rfl
    obtain ⟨reply, rfl, hgiven⟩ := htarget.exists_reply
    exact .unfound hgiven hfault
  | went htarget hrest =>
  obtain ⟨reply, rfl, hfound⟩ := htarget.exists_reply
  cases hrest with
  | stopped hchoice =>
    obtain ⟨rfl, hchosen⟩ := hchoice.eq
    -- the choice asks nothing, so it can only be refused by the answers
    cases hselect : answers.select Provider.catalog with
    | ok provider =>
      rw [hselect] at hchosen
      cases hchosen
    | error cause =>
      rw [hselect] at hchosen
      cases hchosen
      exact .refused hfound (.choice hselect)
  | went hchoice hchosen =>
  obtain ⟨rfl, hchosenBy⟩ := hchoice.eq
  have hselect := mapError_eq_ok.mp hchosenBy.symm
  -- with a provider chosen, only the values of the answers can still be refused
  rcases hchosen.screened (mem_of_select hselect) with ⟨cause, hauto, hcollect, rfl, rfl⟩ |
    ⟨hpass, hends⟩
  · exact .refused hfound (.values hselect hauto hcollect)
  · refine .passed hfound (fun cause hrefuses => ?_) hends
    obtain ⟨hauto, hcollect⟩ := (Answers.refuses_iff_of_select hselect).mp hrefuses
    exact hpass cause hauto hcollect

/-- What the screening makes of a setup that begins with the look-up `first`: the setup is refused
    for its answers exactly if the look-up is accepted and the answers are unfit, it has then asked
    nothing else, and of the faults that the procedures know three are never met. -/
structure Screened (first : Exchange) (selection : Option String) (values : List (String × String))
    (xs : List Exchange) (r : Except Fault Summary) : Prop where
  opens : xs.head? = some first
  refused_iff : (∃ fault, r = .error fault ∧ fault.kind = .answers) ↔
    first.IsAccepted ∧ Answers.Unfit selection values
  alone : ∀ fault, r = .error fault → fault.kind = .answers → xs = [first] ∧ first.IsAccepted
  never : ∀ fault, r = .error fault → fault.kind ≠ .addOnType ∧
    fault ≠ .argument .noSecrets ∧ fault ≠ .argument .emptyMachineId

/-- A run that stops from outside stops with none of the faults from within. -/
theorem EndsOutward.not_isInward {r : Except Fault α} (h : EndsOutward r) {fault : Fault}
    (hr : r = .error fault) : ¬ fault.IsInward :=
  (h fault hr).not_isInward

/-- Where nothing comes from within, the setup was not refused. -/
theorem Screened.of_endsOutward {first : Exchange} {selection : Option String}
    {values : List (String × String)} {rest : List Exchange} {r : Except Fault Summary}
    (h : EndsOutward r) (hnot : ¬ (first.IsAccepted ∧ Answers.Unfit selection values)) :
    Screened first selection values (first :: rest) r where
  opens := rfl
  refused_iff := iff_of_false (fun ⟨_, hr, hkind⟩ => h.not_isInward hr (Or.inl (by simp [hkind])))
    hnot
  alone _ hr hkind := absurd (Or.inl (by simp [hkind])) (h.not_isInward hr)
  never _ hr := ⟨fun hkind => h.not_isInward hr (Or.inl (by simp [hkind])),
    fun hfault => h.not_isInward hr (Or.inr (Or.inl hfault)),
    fun hfault => h.not_isInward hr (Or.inr (Or.inr hfault))⟩

/-- The three ways a setup can go past the answers, each read as the statement on its first
    exchange: the app is not found, the answers are refused, or they have passed. -/
theorem Screening.screened {appName : String} {selection : Option String}
    {values : List (String × String)} {r : Except Fault Summary}
    (h : Screening appName (.of selection values) xs r) :
    ∃ reply, Screened (appCall appName, reply) selection values xs r := by
  cases h with
  | @unfound reply _ hgiven hfault =>
    -- the look-up was refused, so nothing can be said against the answers
    have hrefused : Exchange.refusal? (appCall appName, reply) = some _ :=
      Exchange.refusal?_of_error rfl hgiven
    refine ⟨reply, .of_endsOutward (endsOutward_error hfault) fun ⟨haccepted, _⟩ => ?_⟩
    cases haccepted.symm.trans hrefused
  | @refused reply _ cause hfound hrefuses =>
    have haccepted : Exchange.IsAccepted (appCall appName, reply) :=
      Exchange.isAccepted_of_ok rfl hfound
    refine ⟨reply, ⟨rfl, ?_, fun _ _ _ => ⟨rfl, haccepted⟩, ?_⟩⟩
    · exact iff_of_true ⟨_, rfl, rfl⟩ ⟨haccepted, Answers.refuses_iff.mp ⟨cause, hrefuses⟩⟩
    · rintro _ ⟨⟩
      exact ⟨nofun, nofun, nofun⟩
  | @passed reply _ _ _ _ hpass hends =>
    refine ⟨reply, .of_endsOutward hends fun ⟨_, hunfit⟩ => ?_⟩
    -- unfit answers would have been refused, and these were not
    obtain ⟨cause, hrefuses⟩ := Answers.refuses_iff.mpr hunfit
    exact hpass cause hrefuses

/-- **Answers that do not do change nothing**, whoever replies and whatever the replies are. -/
theorem ship_screened {σ : Type} (respond : σ → Call → Reply × σ) (image appName : String)
    (selection : Option String) (values : List (String × String)) (s : σ) :
    let o := (ship image appName (.of selection values)).run respond s
    Screened (appCall appName, (respond s (appCall appName)).1) selection values o.exchanges
      o.result := by
  obtain ⟨reply, hscreened⟩ :=
    (shipCourse_of_run respond image appName (.of selection values) s).screened.screened
  have hserved := served_run respond (ship image appName (.of selection values)) s
  -- the reply to the look-up is the responder's
  obtain ⟨rest, hxs⟩ := List.head?_eq_some_iff.mp hscreened.opens
  rw [hxs] at hserved
  cases hserved
  exact hscreened

end Setup

end LogDrain
