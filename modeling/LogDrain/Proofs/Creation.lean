/-
  WHAT LICENSES A CREATION: nothing is created unless a look-up showed that it is not there.

  An add-on, an app and a machine are created right after a look-up of the same thing.  What the
  reply to that look-up has to show is said here of its bytes alone, not in terms of the operations:

    * `ShowsNoAddOn`     its errors say "not found", or its data have no object for the add-on;
    * `ShowsNoShipper`   it is accepted, and its data list no app;
    * `ShowsNoMachine`   its status says that it was done, and its body lists no machine;
    * `ShowsRegion`      it is accepted, and its data have the code of the region.

  `Licensed before call` says that the exchanges before a call end with such a look-up.  A run in
  which every call is licensed stays one when another follows (`licensedFrom_append`), so it is
  enough to look at the moves one by one (`Move.isLicensed`).  In particular a look-up that was not
  answered (`Unanswered`) creates nothing, because it is the last exchange of its run.

  What the operations make of a reply is the matter in question, so it cannot be the measure.  The
  work is in the three lemmas that go from the one to the other
  (`Platform.showsNoAddOn_of_notFound`, `Platform.showsNoShipper_of_nil`,
  `Machines.showsNoMachine_of_nil`): an operation that comes to this result was given a reply that
  shows so.
-/
import LogDrain.Proofs.Moves
import LogDrain.Proofs.Order

namespace LogDrain

/-! ## What replies show

  The licenses: what a reply has to say so that a creation is justified.  Each is a statement on
  the bytes of one reply. -/

/-- The reply is accepted by the GraphQL API, and these are its data. -/
def HasData (reply : Reply) (data : Fields) : Prop :=
  ∃ payload, reply = .answered 200 payload ∧
    (Envelope.field (Envelope.body payload) "errors").isPresent = false ∧
    Envelope.field (Envelope.body payload) "data" = .obj data

/-- The reply has errors, and one of them says that something was not found. -/
def ErrorsSayNotFound (reply : Reply) : Prop :=
  ∃ status payload entries, reply = .answered status payload ∧
    (Envelope.field (Envelope.body payload) "errors").isPresent = true ∧
    (Envelope.field (Envelope.body payload) "errors").elements = .ok entries ∧
    Envelope.anySaysNotFound (Json.objects entries) = .ok true

/-- The reply shows that there is no add-on. -/
def ShowsNoAddOn (reply : Reply) : Prop :=
  ErrorsSayNotFound reply ∨
    ∃ data, HasData reply data ∧ ∀ fields, Fields.get data "addOn" ≠ .obj fields

/-- The reply shows that there is no shipper: none of the nodes is an object. -/
def ShowsNoShipper (reply : Reply) : Prop :=
  ∃ data, HasData reply data ∧
    ∀ apps nodes fields, Fields.get data "apps" = .obj apps → Fields.get apps "nodes" = .arr nodes →
      .obj fields ∉ nodes

/-- The reply shows that there is no machine: it lists nothing, or nothing that is an object. -/
def ShowsNoMachine (reply : Reply) : Prop :=
  ∃ status payload, reply = .answered status payload ∧ (status = 200 ∨ status = 201) ∧
    (payload = [] ∨ ∃ v, Envelope.parse? payload = some v ∧
      ∀ items fields, v = .arr items → .obj fields ∉ items)

/-- The reply shows this region. -/
def ShowsRegion (reply : Reply) (region : String) : Prop :=
  ∃ data fields, HasData reply data ∧ Fields.get data "nearestRegion" = .obj fields ∧
    (Fields.get fields "code").isPresent = true ∧ region = (Fields.get fields "code").display

/-! ## Reading them off the operations

  From what an operation made of a reply to what the reply said.  The only way to go on to a
  creation is through a value of one of these operations, or through the fault "not found" of one
  of them. -/

namespace Platform

/-- **A reply whose data are read has data**: it was answered with 200, its errors are nothing, and
    there is an object under `data`. -/
theorem hasData_of_dataOf {reply : Reply} {data : Fields} (h : dataOf reply = .ok data) :
    HasData reply data := by
  cases reply with
  | lost loss => cases loss <;> cases h
  | answered status payload =>
    simp only [dataOf, Envelope.read] at h
    split at h
    · split at h <;> cases h
    rename_i herrors
    split at h
    · cases h
    rename_i hstatus
    split at h
    · rename_i fields hdata
      cases h
      exact ⟨payload, by rw [Classical.not_not.mp hstatus], Bool.eq_false_iff.mpr herrors, hdata⟩
    · cases h

/-- A wrong shape is never told as not found, so no creation follows from it. -/
theorem shapeFault_kind_ne (fault : ShapeFault) : fault.kind ≠ .notFound := by
  cases fault <;> nofun

/-- **A reply that is refused as not found says so in its errors.**  A status, even 404, is not
    taken for it here, nor are data that are not there. -/
theorem errorsSayNotFound_of_dataOf {reply : Reply} {fault : Fault}
    (h : dataOf reply = .error fault)
    (hkind : fault.kind = .notFound) : ErrorsSayNotFound reply := by
  cases reply with
  | lost loss => cases loss <;> cases h <;> cases hkind
  | answered status payload =>
    simp only [dataOf, Envelope.read] at h
    split at h
    · rename_i herrors
      split at h
      · cases h
        exact absurd hkind (shapeFault_kind_ne _)
      · rename_i entries hentries
        cases h
        -- the errors are a list: what the refusal is depends on whether one of them says so
        unfold Envelope.refusal at hkind
        split at hkind
        · exact absurd hkind (shapeFault_kind_ne _)
        · rename_i hany
          exact ⟨status, payload, entries, rfl, herrors, hentries, hany⟩
        · cases hkind
    · split at h
      · cases h
        cases hkind
      · split at h <;> cases h
        cases hkind

/-- **An add-on that was not found** is not there according to the reply. -/
theorem showsNoAddOn_of_notFound {name : String} {reply : Reply} {fault : Fault}
    (h : (addOn name).given reply = .error fault) (hkind : fault.kind = .notFound) :
    ShowsNoAddOn reply := by
  simp only [addOn, Procedure.given_then, given_query] at h
  cases hdata : dataOf reply with
  | error cause =>
    rw [hdata] at h
    cases h
    exact Or.inl (errorsSayNotFound_of_dataOf hdata hkind)
  | ok data =>
    rw [hdata] at h
    refine Or.inr ⟨data, hasData_of_dataOf hdata, fun fields hfields => ?_⟩
    -- an object that is there is read, and what goes wrong with it is its shape
    have hshape : (AddOn.ofJson (.obj fields)).mapError Fault.shape = .error fault := by
      simpa [hfields, objectOr, bind, Except.bind] using h
    cases hread : AddOn.ofJson (.obj fields) with
    | ok read =>
      rw [hread] at hshape
      cases hshape
    | error wrong =>
      rw [hread] at hshape
      cases hshape
      exact shapeFault_kind_ne wrong hkind

theorem memberOfPresent_obj (fields : Fields) (key : String) :
    (Json.obj fields).memberOfPresent key = .ok (Fields.get fields key) := by
  cases fields <;> rfl

theorem elements_orElse_arr (items : List Json) :
    ((Json.arr items).orElse (.arr [])).elements = .ok items := by
  cases items <;> rfl

/-- **An empty listing of apps** lists no object. -/
theorem showsNoShipper_of_nil {role organizationId : String} {reply : Reply}
    (h : (appsByRole role organizationId).given reply = .ok []) : ShowsNoShipper reply := by
  simp only [appsByRole, Procedure.given_then, given_query, Procedure.given_ofShape, bind_eq_ok,
    mapError_eq_ok] at h
  obtain ⟨data, hdata, nodes, hnodes, entries, hentries, hread⟩ := h
  refine ⟨data, hasData_of_dataOf hdata, fun apps items fields happs hitems hmem => ?_⟩
  rw [happs, memberOfPresent_obj, hitems] at hnodes
  cases hnodes
  rw [elements_orElse_arr] at hentries
  cases hentries
  have hlength := (mapM_ok_iff.mp hread).length_eq
  have hfields : fields ∈ Json.objects entries := List.mem_filterMap.mpr ⟨_, hmem, rfl⟩
  rw [List.length_eq_zero_iff.mp hlength] at hfields
  cases hfields

/-- **A region that was found** has its code in the reply. -/
theorem showsRegion_of_ok {reply : Reply} {region : String}
    (h : nearestRegion.given reply = .ok region) : ShowsRegion reply region := by
  simp only [nearestRegion, Procedure.given_then, given_query, Procedure.given_ofShape,
    given_textOfPresent, bind_eq_ok, mapError_eq_ok] at h
  obtain ⟨data, hdata, code, hcode, htext⟩ := h
  split at htext
  · rename_i hpresent
    cases htext
    refine ⟨data, ?_⟩
    unfold Json.memberOfPresent Json.member at hcode
    split at hcode
    · rename_i fields hfields
      cases hcode
      unfold Json.orElse at hfields
      split at hfields
      · exact ⟨fields, hasData_of_dataOf hdata, hfields, hpresent, rfl⟩
      · -- nothing stands for an object without fields, which has no code
        cases hfields
        cases hpresent
    · cases hcode
  · cases htext

end Platform

/-- **An empty listing of machines** lists no object. -/
theorem Machines.showsNoMachine_of_nil {app : String} {reply : Reply}
    (h : (Machines.list app).given reply = .ok []) : ShowsNoMachine reply := by
  obtain ⟨status, payload, hreply, hstatus, hread⟩ := readList_of_list h
  have hcode : status = 200 ∨ status = 201 := by
    simpa [isAccepted] using hstatus
  refine ⟨status, payload, hreply, hcode, ?_⟩
  by_cases hpayload : payload = []
  · exact Or.inl hpayload
  right
  simp only [readList, payloadValue?, if_neg hpayload] at hread
  split at hread
  · cases hread
  · rename_i items hparse
    refine ⟨_, hparse, fun others fields hitems hmem => ?_⟩
    cases hitems
    -- as many machines are read as objects are listed
    have hlength := (mapM_ok_iff.mp hread).length_eq
    have hfields : fields ∈ Json.objects items := List.mem_filterMap.mpr ⟨_, hmem, rfl⟩
    rw [List.length_eq_zero_iff.mp hlength] at hfields
    cases hfields
  · rename_i v hnone hparse
    exact ⟨v, hparse, fun items fields hitems _ => hnone items (hitems ▸ rfl)⟩

namespace Setup

open Procedure

variable {α β : Type}

/-! ## Licensed calls

  A license is a statement on the end of what was exchanged before.  So it is not lost when a run
  stands behind another one, and runs are licensed piece by piece. -/

/-- The exchanges before the call end with the look-up that licenses it; a call that creates nothing
    needs no licence. -/
def Licensed (before : List Exchange) : Call → Prop
  | .query (.createAddOn _ name _ _) =>
    ∃ earlier reply, before = earlier ++ [(.query (.addOn name), reply)] ∧ ShowsNoAddOn reply
  | .query (.createApp organizationId _ _ _) =>
    ∃ earlier reply,
      before = earlier ++ [(.query (.appsByRole shipperRole organizationId), reply)] ∧
      ShowsNoShipper reply
  | .machines app (.launch what) =>
    ∃ earlier listing near,
      before = earlier ++ [(.machines app .list, listing), (.query .nearestRegion, near)] ∧
      ShowsNoMachine listing ∧ ShowsRegion near what.region
  | _ => True

/-- What stands further back takes no licence away. -/
theorem Licensed.mono {before : List Exchange} {call : Call} (earlier : List Exchange)
    (h : Licensed before call) : Licensed (earlier ++ before) call := by
  unfold Licensed at h ⊢
  split
  · obtain ⟨first, reply, rfl, hshows⟩ := h
    exact ⟨earlier ++ first, reply, (List.append_assoc ..).symm, hshows⟩
  · obtain ⟨first, reply, rfl, hshows⟩ := h
    exact ⟨earlier ++ first, reply, (List.append_assoc ..).symm, hshows⟩
  · obtain ⟨first, listing, near, rfl, hshows⟩ := h
    exact ⟨earlier ++ first, listing, near, (List.append_assoc ..).symm, hshows⟩
  · trivial

/-- After what was exchanged before, every call is licensed. -/
def LicensedFrom (before : List Exchange) : List Exchange → Prop
  | [] => True
  | x :: xs => Licensed before x.1 ∧ LicensedFrom (before ++ [x]) xs

/-- What came earlier takes no license away: licenses speak of the end of what came before. -/
theorem LicensedFrom.mono {before xs : List Exchange} (earlier : List Exchange)
    (h : LicensedFrom before xs) : LicensedFrom (earlier ++ before) xs := by
  -- what comes before grows along the run, so it has to vary in the induction
  induction xs generalizing before with
  | nil => trivial
  | cons x xs ih =>
    refine ⟨h.1.mono earlier, ?_⟩
    rw [List.append_assoc]
    exact ih h.2

/-- Two runs in a row are licensed if the first is, and the second from behind the first. -/
theorem licensedFrom_append {before xs ys : List Exchange} :
    LicensedFrom before (xs ++ ys) ↔ LicensedFrom before xs ∧ LicensedFrom (before ++ xs) ys := by
  induction xs generalizing before with
  | nil =>
    rw [List.nil_append, List.append_nil]
    exact ⟨fun h => ⟨trivial, h⟩, fun h => h.2⟩
  | cons x xs ih =>
    show Licensed before x.1 ∧ LicensedFrom (before ++ [x]) (xs ++ ys) ↔
      (Licensed before x.1 ∧ LicensedFrom (before ++ [x]) xs) ∧ LicensedFrom (before ++ x :: xs) ys
    rw [ih, List.append_cons before x xs]
    exact and_assoc.symm

/-- **Every call in its place is licensed by what came before it.** -/
theorem LicensedFrom.licensed {before earlier later : List Exchange} {x : Exchange}
    (h : LicensedFrom before (earlier ++ x :: later)) : Licensed (before ++ earlier) x.1 :=
  (licensedFrom_append.mp h).2.1

/-- The calls of the run are licensed on their own. -/
def IsLicensed (xs : List Exchange) : Prop := LicensedFrom [] xs

/-- Runs that need no license from before can be put in a row. -/
theorem IsLicensed.append {xs ys : List Exchange} (hx : IsLicensed xs) (hy : IsLicensed ys) :
    IsLicensed (xs ++ ys) := by
  refine licensedFrom_append.mpr ⟨hx, ?_⟩
  have hmoved := LicensedFrom.mono xs hy
  rwa [List.append_nil] at hmoved

theorem licensed_of_not_creates {before : List Exchange} {call : Call} (h : ¬ call.Creates) :
    Licensed before call := by
  unfold Licensed
  split
  · exact absurd trivial h
  · exact absurd trivial h
  · exact absurd trivial h
  · trivial

/-- **Every move is licensed**: a creation stands in it right behind its look-up. -/
theorem Move.isLicensed {xs : List Exchange} (h : Move xs) : IsLicensed xs := by
  cases h with
  | lone hcall => exact ⟨licensed_of_not_creates hcall, trivial⟩
  | addOn hfound hkind =>
    have hshows := Platform.showsNoAddOn_of_notFound hfound hkind
    exact ⟨trivial, ⟨[], _, rfl, hshows⟩, trivial⟩
  | shipper hlook => exact ⟨trivial, ⟨[], _, rfl, Platform.showsNoShipper_of_nil hlook⟩, trivial⟩
  | machine hlist hregion =>
    have hmachine := Machines.showsNoMachine_of_nil hlist
    have hnear := Platform.showsRegion_of_ok hregion
    exact ⟨trivial, trivial, ⟨[], _, _, rfl, hmachine, hnear⟩, trivial⟩

/-- **Moves in a row are licensed.** -/
theorem Moves.isLicensed {xs : List Exchange} (h : Moves xs) : IsLicensed xs :=
  h.closed trivial IsLicensed.append Move.isLicensed

/-! ## Look-ups that were not answered

  A look-up is unanswered if it was lost or refused in any way but by "not found".  Nothing
  follows it, in particular no creation. -/

/-- The call was not answered: the request was lost, the status says that it was not done and no
    errors tell why, or nothing can be read. -/
inductive Unanswered : Exchange → Prop
  | lost {call loss} : Unanswered (call, .lost loss)
  | status {q status payload} :
      (Envelope.field (Envelope.body payload) "errors").isPresent = false → status ≠ 200 →
      Unanswered (.query q, .answered status payload)
  | noData {q status payload} :
      (Envelope.field (Envelope.body payload) "errors").isPresent = false →
      (∀ data, Envelope.field (Envelope.body payload) "data" ≠ .obj data) →
      Unanswered (.query q, .answered status payload)
  | undone {app call status payload} : status ≠ 200 → status ≠ 201 →
      Unanswered (.machines app call, .answered status payload)
  | unreadable {app status payload} : payload ≠ [] → Envelope.parse? payload = none →
      Unanswered (.machines app .list, .answered status payload)

/-- Where a call was accepted, its operation has a value. -/
theorem exists_value_of_isAccepted {call : Call} {reply : Reply} {p : Procedure α}
    (hp : call.operation = p.forget) (h : Exchange.IsAccepted (call, reply)) :
    ∃ value, p.given reply = .ok value := by
  cases hgiven : p.given reply with
  | ok value => exact ⟨value, rfl⟩
  | error fault =>
    unfold Exchange.IsAccepted at h
    rw [Exchange.refusal?_of_error hp hgiven] at h
    cases h

/-- An operation of the GraphQL API has a value only if the reply has data. -/
theorem hasData_of_given {q : Query} {f : Fields → Procedure α} {reply : Reply} {value : α}
    (h : (Platform.query q >>= f).given reply = .ok value) : ∃ data, HasData reply data := by
  rw [given_then, Platform.given_query] at h
  obtain ⟨data, hdata, -⟩ := bind_eq_ok.mp h
  exact ⟨data, Platform.hasData_of_dataOf hdata⟩

/-- An operation of the Machines API has a value only if the status says that it was done. -/
theorem isAccepted_of_given {app : String} {call : MachineCall} {f : List UInt8 → Procedure α}
    {reply : Reply} {value : α} (h : (Machines.ask app call >>= f).given reply = .ok value) :
    ∃ status payload, reply = .answered status payload ∧ Machines.isAccepted status = true := by
  rw [given_then, Machines.given_ask] at h
  obtain ⟨payload, hbody, -⟩ := bind_eq_ok.mp h
  cases reply with
  | lost loss => cases loss <;> cases hbody
  | answered status payload =>
    simp only [Machines.bodyOf] at hbody
    split at hbody
    · rename_i hstatus
      exact ⟨status, payload, rfl, hstatus⟩
    · cases hbody

/-- An accepted query has data, whichever operation accepted it. -/
theorem hasData_of_isAccepted {q : Query} {reply : Reply}
    (h : Exchange.IsAccepted (.query q, reply)) : ∃ data, HasData reply data := by
  -- accepted means that the operation had a value, and every operation starts with the data
  cases q with
  | app name =>
    obtain ⟨value, hvalue⟩ := exists_value_of_isAccepted (p := Platform.app _) rfl h
    exact hasData_of_given hvalue
  | appsByRole role organizationId =>
    obtain ⟨value, hvalue⟩ := exists_value_of_isAccepted (p := Platform.appsByRole _ _) rfl h
    exact hasData_of_given hvalue
  | createApp organizationId name role hasMachines =>
    obtain ⟨value, hvalue⟩ := exists_value_of_isAccepted (p := Platform.createApp _ _ _ _) rfl h
    exact hasData_of_given hvalue
  | addOn name =>
    obtain ⟨value, hvalue⟩ := exists_value_of_isAccepted (p := Platform.addOn _) rfl h
    exact hasData_of_given hvalue
  | createAddOn organizationId name appId addOnType =>
    obtain ⟨value, hvalue⟩ := exists_value_of_isAccepted (p := Platform.createAddOn _ _ _ _) rfl h
    exact hasData_of_given hvalue
  | createToken name organizationId profile params expiry =>
    obtain ⟨value, hvalue⟩ := exists_value_of_isAccepted (p := Platform.createToken _ _ _ _ _) rfl h
    exact hasData_of_given hvalue
  | setSecrets appId secrets =>
    obtain ⟨value, hvalue⟩ := exists_value_of_isAccepted (p := Platform.setSecrets _ _) rfl h
    unfold Platform.setSecrets at hvalue
    split at hvalue
    · cases hvalue
    · exact hasData_of_given hvalue
  | nearestRegion =>
    obtain ⟨value, hvalue⟩ := exists_value_of_isAccepted (p := Platform.nearestRegion) rfl h
    exact hasData_of_given hvalue

/-- An accepted call to the Machines API was answered with a status that says that it was done. -/
theorem isAccepted_status {app : String} {call : MachineCall} {reply : Reply}
    (h : Exchange.IsAccepted (.machines app call, reply)) :
    ∃ status payload, reply = .answered status payload ∧ Machines.isAccepted status = true := by
  cases call with
  | list =>
    obtain ⟨value, hvalue⟩ := exists_value_of_isAccepted (p := Machines.list _) rfl h
    exact isAccepted_of_given hvalue
  | launch what =>
    obtain ⟨value, hvalue⟩ := exists_value_of_isAccepted (p := Machines.launch _ _) rfl h
    exact isAccepted_of_given hvalue
  | restart machineId =>
    obtain ⟨value, hvalue⟩ := exists_value_of_isAccepted (p := Machines.restart _ _) rfl h
    unfold Machines.restart at hvalue
    split at hvalue
    · cases hvalue
    · exact isAccepted_of_given hvalue
  | wait machineId state seconds =>
    obtain ⟨value, hvalue⟩ := exists_value_of_isAccepted (p := Machines.wait _ _ _ _) rfl h
    exact isAccepted_of_given hvalue

/-- **A call that was not answered was not accepted.** -/
theorem Unanswered.not_isAccepted {x : Exchange} (h : Unanswered x) : ¬ x.IsAccepted := by
  intro haccepted
  -- what was accepted has data, or a status and a body that can be read; each case lacks one of
  -- these
  cases h with
  | @lost call loss =>
    cases call with
    | query q =>
      obtain ⟨data, payload, hreply, -⟩ := hasData_of_isAccepted haccepted
      cases hreply
    | machines app call =>
      obtain ⟨status, payload, hreply, -⟩ := isAccepted_status haccepted
      cases hreply
  | status _ hstatus =>
    obtain ⟨data, payload, hreply, -⟩ := hasData_of_isAccepted haccepted
    cases hreply
    exact hstatus rfl
  | noData _ hnone =>
    obtain ⟨data, payload, hreply, -, hdata⟩ := hasData_of_isAccepted haccepted
    cases hreply
    exact hnone data hdata
  | undone hdone hcreated =>
    obtain ⟨status, payload, hreply, hstatus⟩ := isAccepted_status haccepted
    cases hreply
    simp [Machines.isAccepted, hdone, hcreated] at hstatus
  | unreadable hpayload hparse =>
    obtain ⟨machines, hlist⟩ := exists_value_of_isAccepted (p := Machines.list _) rfl haccepted
    obtain ⟨status, payload, hreply, -, hread⟩ := Machines.readList_of_list hlist
    cases hreply
    simp [Machines.readList, Machines.payloadValue?, hpayload, hparse] at hread

/-- A look-up that was not answered does not show that an add-on is not there. -/
theorem Unanswered.not_showsNoAddOn {q : Query} {reply : Reply} (h : Unanswered (.query q, reply)) :
    ¬ ShowsNoAddOn reply := by
  rintro (⟨status, payload, entries, hreply, herrors, -⟩ |
    ⟨data, ⟨payload, hreply, hnone, hdata⟩, -⟩)
  · cases h with
    | lost => cases hreply
    | status hnone _ | noData hnone _ =>
      cases hreply
      rw [hnone] at herrors
      cases herrors
  · cases h with
    | lost => cases hreply
    | status _ hstatus =>
      cases hreply
      exact hstatus rfl
    | noData _ hobject =>
      cases hreply
      exact hobject data hdata

/-- **Nothing follows a call that was not answered.** -/
theorem Unanswered.not_follows {x y : Exchange} (h : Unanswered x) : ¬ Follows x y := by
  intro hfollows
  cases hfollows with
  | accepted haccepted => exact h.not_isAccepted haccepted
  | @notFound name reply fault _ _ _ _ hrefusal hkind =>
    have hgiven : (Platform.addOn name).given reply = .error fault := by
      cases hvalue : (Platform.addOn name).given reply with
      | ok addOn =>
        have haccepted : Exchange.refusal? (.query (.addOn name), reply) = none :=
          Exchange.isAccepted_of_ok rfl hvalue
        rw [haccepted] at hrefusal
        cases hrefusal
      | error cause =>
        rw [Exchange.refusal?_of_error rfl hvalue] at hrefusal
        cases hrefusal
        rfl
    exact h.not_showsNoAddOn (Platform.showsNoAddOn_of_notFound hgiven hkind)

/-! ## The whole -/

/-- What guards the creations of a run: each has its licence in the replies right before it, and a
    call that was not answered is the last one. -/
structure Guarded (xs : List Exchange) : Prop where
  licensed : ∀ before x after, xs = before ++ x :: after → Licensed before x.1
  unanswered : ∀ before x after, xs = before ++ x :: after → Unanswered x → after = []

/-- **A setup creates only what a look-up has just shown not to be there**, whoever replies. -/
theorem ship_guarded {σ : Type} (respond : σ → Call → Reply × σ) (image appName : String)
    (answers : Answers) (s : σ) :
    Guarded ((ship image appName answers).run respond s).exchanges := by
  have hcourse := shipCourse_of_run respond image appName answers s
  constructor
  · intro before x after hxs
    have hlicensed := hcourse.moves.isLicensed
    rw [hxs] at hlicensed
    exact LicensedFrom.licensed hlicensed
  · intro before x after hxs hunanswered
    -- a call after this one would have to follow it
    cases after with
    | nil => rfl
    | cons y after =>
      have hchain := hcourse.orderly.chain
      rw [hxs, List.isChain_append] at hchain
      exact absurd (List.isChain_cons_cons.mp hchain.2.1).1 hunanswered.not_follows

end Setup

end LogDrain
