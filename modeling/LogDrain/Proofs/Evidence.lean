/-
  NO CREDENTIAL WITHOUT A MACHINE: what a reply has to show before anything is deployed.

  A token is issued, secrets are written and machines are restarted only for a shipper that has a
  machine.  That it has one is shown by a reply of the Machines API, and what such a reply is can be
  said of its bytes alone:

    1. `ShowsMachine app x`     the exchange is about the app of this name, its status says that it
                                was done, and its body lists objects, each with an id; or, for a
                                launch, is an object with an id;
    2. `LacksMachine x`         a listing that shows neither a machine nor that there is none, or a
                                launch that shows no machine: whatever its status or body, or lost.

  The evidence comes from one of three places: the listing of a shipper that was found, the launch
  after an empty listing, or the listing that is made again of a shipper that was just created.  A
  course of the machine step that ends well has it in any case (`MachineCourse.shows`), and the
  deployment comes after that step and is about the same shipper (`Deployment.sends`).

  `ship_equipped` puts it together: before the first call that deploys anything stand the reply that
  gives the shipper and one that shows its machine, and a reply that lacks the machine is the last
  one.
-/
import LogDrain.Proofs.Origin

namespace LogDrain

/-! ## What the replies of the Machines API show

  The evidence is said of bytes: a status that is accepted, and a body with an object that has an
  id.  No operation is mentioned in it. -/

/-- The exchange shows that the app of this name has a machine. -/
inductive ShowsMachine (app : String) : Exchange → Prop
  | listed {status payload items fields} : status = 200 ∨ status = 201 →
      Envelope.parse? payload = some (.arr items) → .obj fields ∈ items →
      (∀ each, .obj each ∈ items → (Fields.get each "id").isPresent = true) →
      ShowsMachine app (.machines app .list, .answered status payload)
  | launched {what status payload fields} : status = 200 ∨ status = 201 →
      Envelope.parse? payload = some (.obj fields) → (Fields.get fields "id").isPresent = true →
      ShowsMachine app (.machines app (.launch what), .answered status payload)

/-- The exchange lists or launches machines, and its reply is anything but one that shows a machine
    or, for a listing, that there is none. -/
inductive LacksMachine : Exchange → Prop
  | listing {app reply} : ¬ ShowsMachine app (.machines app .list, reply) → ¬ ShowsNoMachine reply →
      LacksMachine (.machines app .list, reply)
  | launch {app what reply} : ¬ ShowsMachine app (.machines app (.launch what), reply) →
      LacksMachine (.machines app (.launch what), reply)

/-- The objects of a list are those of its entries that are one. -/
theorem Json.mem_objects {items : List Json} {fields : Fields} :
    fields ∈ objects items ↔ .obj fields ∈ items := by
  constructor
  · intro h
    obtain ⟨v, hv, hfields⟩ := List.mem_filterMap.mp h
    cases v with
    | obj => cases hfields; exact hv
    | null | bool | int | real | str | arr => cases hfields
  · intro h
    exact List.mem_filterMap.mpr ⟨_, h, rfl⟩

namespace Machines

/-- A body that stands for a value which is not the one for the empty body has that value as its
    text. -/
theorem parse?_of_payloadValue? {whenEmpty v : Json} {payload : List UInt8}
    (h : payloadValue? whenEmpty payload = some v) (hv : v ≠ whenEmpty) :
    Envelope.parse? payload = some v := by
  unfold payloadValue? at h
  split at h
  · cases h
    exact absurd rfl hv
  · exact h

/-- **A listing that gives a machine** shows it. -/
theorem showsMachine_of_list {app : String} {reply : Reply} {machines : List Machine}
    (h : (list app).given reply = .ok machines) (hmachines : machines ≠ []) :
    ShowsMachine app (.machines app .list, reply) := by
  obtain ⟨status, payload, rfl, hstatus, hread⟩ := readList_of_list h
  have hcode : status = 200 ∨ status = 201 := by
    simpa [isAccepted] using hstatus
  unfold readList at hread
  split at hread
  · cases hread
  · rename_i items hpayload
    -- a machine that was read came from an object of the array, so the array is not the empty one
    obtain ⟨m, hm⟩ := List.exists_mem_of_ne_nil machines hmachines
    obtain ⟨fields, hfields, -⟩ := exists_of_mem_mapM hread hm
    have hv := Json.mem_objects.mp hfields
    have hnonempty : Json.arr items ≠ .arr [] := by
      rintro ⟨⟩
      cases hv
    refine .listed hcode (parse?_of_payloadValue? hpayload hnonempty) hv fun each heach => ?_
    obtain ⟨_, -, hmachine⟩ := exists_reading_of_mem hread (Json.mem_objects.mpr heach)
    exact (machine_id hmachine).1
  · cases hread
    exact absurd rfl hmachines

/-- **A launch that gives a machine** shows it. -/
theorem showsMachine_of_launch {app : String} {what : Launch} {reply : Reply} {made : Machine}
    (h : (launch app what).given reply = .ok made) :
    ShowsMachine app (.machines app (.launch what), reply) := by
  obtain ⟨status, payload, rfl, hstatus, hread⟩ := readLaunch_of_launch h
  have hcode : status = 200 ∨ status = 201 := by
    simpa [isAccepted] using hstatus
  unfold readLaunch at hread
  split at hread
  · rename_i fields hpayload
    have hid := (machine_id hread).1
    have hnonempty : Json.obj fields ≠ .obj [] := by
      rintro ⟨⟩
      cases hid
    exact .launched hcode (parse?_of_payloadValue? hpayload hnonempty) hid
  · cases hread

end Machines

namespace Setup

open Procedure

/-- A reply that lacks the machine is refused. -/
theorem LacksMachine.not_isAccepted {x : Exchange} (h : LacksMachine x) : ¬ x.IsAccepted := by
  intro haccepted
  cases h with
  | @listing app _ hmachine hnone =>
    obtain ⟨machines, hlist⟩ := exists_value_of_isAccepted (p := Machines.list app) rfl haccepted
    by_cases hmachines : machines = []
    · subst hmachines
      exact hnone (Machines.showsNoMachine_of_nil hlist)
    · exact hmachine (Machines.showsMachine_of_list hlist hmachines)
  | @launch app what _ hmachine =>
    obtain ⟨made, hmade⟩ := exists_value_of_isAccepted (p := Machines.launch app what) rfl haccepted
    exact hmachine (Machines.showsMachine_of_launch hmade)

/-- Nothing follows a reply that lacks the machine. -/
theorem LacksMachine.not_follows {x y : Exchange} (h : LacksMachine x) : ¬ Follows x y := by
  intro hfollows
  cases hfollows with
  | accepted haccepted => exact LacksMachine.not_isAccepted h haccepted
  | notFound => cases h

/-! ## The machine step -/

/-- **Where the machine step ends well**, one of its replies shows the machine. -/
theorem MachineCourse.shows {image : String} {shipper : App} {xs : List Exchange}
    (h : MachineCourse image shipper xs (.ok ())) : ∃ e ∈ xs, ShowsMachine shipper.name e := by
  generalize hr : (.ok () : Except Fault Unit) = r at h
  cases h with
  | blank | unlisted | nowhere | refused => cases hr
  | found _ hlist hmachines =>
    exact ⟨_, List.mem_cons_self, Machines.showsMachine_of_list hlist hmachines⟩
  | launched _ _ _ hmade =>
    exact ⟨_, List.mem_of_mem_getLast? rfl, Machines.showsMachine_of_launch hmade⟩

/-! ## The whole

  A machine was seen before anything is deployed: the machine step stands between the two stages,
  and a setup that did not get its evidence has stopped there. -/

/-- A call that deploys does it to this shipper: the token is for its organization, and secrets and
    restarts are for the app itself. -/
def Reaches (shipper : App) : Call → Prop
  | .query (.createToken _ organizationId ..) => organizationId = shipper.organization.id
  | .query (.setSecrets appId _) => appId = shipper.id
  | .machines app (.restart _) => app = shipper.name
  | _ => True

/-- What a plan sends when it is deployed reaches its shipper. -/
theorem Plan.Sends.reaches {plan : Plan} {env : Environment} {appName : String} {call : Call}
    (h : plan.Sends env appName call) : Reaches plan.shipper call := by
  unfold Plan.Sends at h
  unfold Reaches
  split
  · exact h.2.1
  · exact h
  · exact h
  · trivial

/-- What comes before an exchange of a kind that the first part does not have, begins with that
    part. -/
theorem exists_eq_append {K : Exchange → Prop} {xs ys before after : List Exchange} {x : Exchange}
    (h : xs ++ ys = before ++ x :: after) (hxs : ∀ y ∈ xs, ¬ K y) (hx : K x) :
    ∃ rest, before = xs ++ rest := by
  rcases List.append_eq_append_iff.mp h with ⟨rest, hbefore, -⟩ | ⟨rest, hpart, hrest⟩
  · exact ⟨rest, hbefore⟩
  · cases rest with
    | nil => exact ⟨[], by rw [hpart, List.append_nil, List.append_nil]⟩
    | cons y rest =>
      -- the exchange itself would stand in the first part
      cases hrest
      exact absurd hx (hxs x (by simp [hpart]))

/-- How a run is equipped: if anything is deployed, it is for one shipper, and before each call that
    deploys stand a reply that gives this shipper and one that shows a machine of it; a reply that
    lacks the machine is the last one and makes the setup fail, and then nothing is deployed that
    was not deployed before. -/
structure Equipped (xs : List Exchange) (r : Except Fault Summary) : Prop where
  shown : (∃ x ∈ xs, x.1.Deploys) → ∃ shipper, ∀ before x after, xs = before ++ x :: after →
    x.1.Deploys → GivesPlannedShipper shipper before ∧ (∃ e ∈ before, ShowsMachine shipper.name e) ∧
      Reaches shipper x.1
  lacking : ∀ before x after, xs = before ++ x :: after → LacksMachine x →
    after = [] ∧ ∃ fault, r = .error fault
  undeployed : ∀ before x after, xs = before ++ x :: after → LacksMachine x →
    (∀ y ∈ before, ¬ y.1.Deploys) → ∀ y ∈ xs, ¬ y.1.Deploys

theorem Prepared.shows {image appName : String} {answers : Answers} {plan : Plan}
    {xs : List Exchange} (h : Prepared image appName answers plan xs) :
    GivesPlannedShipper plan.shipper xs ∧ ∃ e ∈ xs, ShowsMachine plan.shipper.name e := by
  obtain ⟨-, -, -, hshipped, hequipped⟩ := h
  obtain ⟨e, he, hshows⟩ := hequipped.shows
  exact ⟨hshipped.gives.mono fun x hx => by simp [hx], e, by simp [he], hshows⟩

/-- Where anything is deployed, everything was prepared for one shipper before. -/
theorem Staged.shown {image appName : String} {answers : Answers} {xs : List Exchange}
    {r : Except Fault Summary} (h : Staged image appName answers xs r) {y : Exchange} (hy : y ∈ xs)
    (hdeploys : y.1.Deploys) :
    ∃ shipper, ∀ before x after, xs = before ++ x :: after → x.1.Deploys →
      GivesPlannedShipper shipper before ∧ (∃ e ∈ before, ShowsMachine shipper.name e) ∧
        Reaches shipper x.1 := by
  cases h with
  | stopped hnone => exact absurd hdeploys (hnone y hy)
  | @deployed plan prepared deployed q hprepared hdeployed =>
    refine ⟨plan.shipper, fun before x after hxs hx => ?_⟩
    obtain ⟨rest, rfl⟩ := exists_eq_append hxs hprepared.not_deploys hx
    obtain ⟨hgives, e, he, hshows⟩ := hprepared.shows
    refine ⟨hgives.mono fun _ => List.mem_append_left rest,
      ⟨e, List.mem_append_left rest he, hshows⟩, ?_⟩
    -- what is left of the run after the preparation is the deployment
    rw [List.append_assoc, List.append_cancel_left_eq] at hxs
    have hsends : ∀ y ∈ deployed, plan.Sends (fun _ => none) appName y.1 :=
      hdeployed.deployment.sends
    have hmem : x ∈ deployed := by
      rw [hxs]
      exact List.mem_append_right rest List.mem_cons_self
    exact (hsends x hmem).reaches

theorem ShipCourse.lacking {image appName : String} {answers : Answers} {xs : List Exchange}
    {r : Except Fault Summary} (h : ShipCourse image appName answers xs r)
    {before : List Exchange} {x : Exchange} {after : List Exchange}
    (hxs : xs = before ++ x :: after)
    (hx : LacksMachine x) : after = [] ∧ ∃ fault, r = .error fault := by
  subst hxs
  have hafter := h.orderly.eq_nil fun y => LacksMachine.not_follows hx
  subst hafter
  refine ⟨rfl, ?_⟩
  cases r with
  | error fault => exact ⟨fault, rfl⟩
  | ok summary =>
    -- a setup that ends well has accepted its last reply
    have hlast : x ∈ (before ++ [x]).getLast? := List.getLast?_concat
    exact absurd (h.orderly.accepted summary rfl x hlast) (LacksMachine.not_isAccepted hx)

/-- **A setup issues no token, writes no secret and restarts nothing without a machine**, whoever
    replies. -/
theorem ship_equipped {σ : Type} (respond : σ → Call → Reply × σ) (image appName : String)
    (answers : Answers) (s : σ) :
    let o := (ship image appName answers).run respond s
    Equipped o.exchanges o.result := by
  have hcourse := shipCourse_of_run respond image appName answers s
  refine ⟨?_, fun before x after hxs hx => hcourse.lacking hxs hx, ?_⟩
  · rintro ⟨y, hy, hdeploys⟩
    exact hcourse.stages.shown hy hdeploys
  · intro before x after hxs hx hbefore
    obtain ⟨rfl, -⟩ := hcourse.lacking hxs hx
    rw [hxs]
    refine not_deploys_append hbefore ?_
    intro y hy
    rw [List.mem_singleton.mp hy]
    cases hx <;> exact id

end Setup

end LogDrain
