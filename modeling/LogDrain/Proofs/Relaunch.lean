/-
  LAUNCHES: how many machines one setup starts.

  A machine is launched only after a listing of the app's machines that shows none.  A shipper that
  was just created is listed twice, once when it is created and once in the step that every shipper
  goes through, and each listing decides for itself; that a machine was launched in between is not
  kept.  So a setup launches one machine at most, unless the machine of a new shipper is missing
  from the listing that comes after its launch: then it launches one more (`Relaunched`), and no
  other.

    1. `MachineCourse.launching`   one step launches a machine after such a listing, or none;
    2. `ShipperCourse.launching`   a shipper gets a machine here only if it is new;
    3. `ship_relaunches`           both together, for every run.

  `relaunches_unlisted` is such a run: its second listing is empty, and two machines are launched.
-/
import LogDrain.Proofs.Evidence

namespace LogDrain.Setup

open Procedure

variable {α β : Type} {xs ys : List Exchange}

/-! ## Counting launches

  Launches are counted as calls are, along the run. -/

/-- How many launches there are among the exchanges. -/
def launches (xs : List Exchange) : ℕ := (kinds xs).count .launch

theorem launches_append : launches (xs ++ ys) = launches xs + launches ys := by
  unfold launches
  rw [kinds_append, List.count_append]

/-- Creating a shipper launches nothing. -/
theorem launches_creation {organization : Organization} {creation : Reply} :
    launches ((createShipperCall organization, creation) :: xs) = launches xs := rfl

/-- Where no word of the language has a launch, no run that begins such a word has one. -/
theorem Spelled.launches_eq_zero {L : Words} {r : Except Fault α} (h : Spelled L xs r)
    (hL : ∀ w ∈ L, w.count .launch = 0) : launches xs = 0 := by
  obtain ⟨w, hw, hbegun⟩ := h.begun
  have hle := hbegun.sublist.count_le CallKind.launch
  rw [hL w hw] at hle
  exact Nat.le_zero.mp hle

theorem ProviderCourse.launches_eq_zero {target : App} {provider : Provider} {answers : Answers}
    {r : Except Fault (List Secret)} (h : ProviderCourse target provider answers xs r) :
    launches xs = 0 := by
  refine h.spelled.launches_eq_zero ?_
  cases provider.auto
  · exact count_of_mem_singleton []
  · exact count_of_mem_add (count_of_mem_singleton _) (count_of_mem_singleton _)

theorem DeployCourse.launches_eq_zero {shipper : App} {secrets : List Secret} {r : Except Fault Nat}
    (h : DeployCourse shipper secrets xs r) : launches xs = 0 := by
  have hempty : ∀ w ∈ (1 : Words), w.count CallKind.launch = 0 := count_of_mem_singleton []
  have hwriting : ∀ w ∈ writingWords, w.count .launch = 0 :=
    count_of_mem_mul (count_of_mem_singleton _) (count_of_mem_mul (count_of_mem_singleton _)
      (count_of_mem_add hempty (count_of_mem_singleton _)))
  have hrestarts : ∀ w ∈ someRestarts, w.count .launch = 0 := by
    rintro w ⟨n, rfl⟩
    rw [List.count_cons, List.count_replicate]
    rfl
  exact h.spelled.launches_eq_zero (count_of_mem_mul hwriting hrestarts)

/-! ## The launch of one machine

  The machine step launches once or not at all, and if it does, it has listed no machine right
  before. -/

/-- The exchanges launch a machine of the shipper: a listing shows none, and the region is given. -/
inductive Launching (image : String) (shipper : App) : List Exchange → Prop
  | mk {listing near region made} : ShowsNoMachine listing → ShowsRegion near region →
      Launching image shipper
        [(listCall shipper, listing), (regionCall, near), (launchCall image shipper region, made)]

/-- The last exchange shows that the shipper has a machine. -/
def EndsWithMachine (shipper : App) (xs : List Exchange) : Prop :=
  ∃ x ∈ xs.getLast?, ShowsMachine shipper.name x

theorem Launching.launches {image : String} {shipper : App} (h : Launching image shipper xs) :
    launches xs = 1 := by
  obtain ⟨-, -⟩ := h
  rfl

/-- **The machine step** launches nothing, or one machine, and where it ends well this one is
    there. -/
theorem MachineCourse.launching {image : String} {shipper : App} {r : Except Fault Unit}
    (h : MachineCourse image shipper xs r) : launches xs = 0 ∨
      Launching image shipper xs ∧ (r = .ok () → EndsWithMachine shipper xs) := by
  cases h with
  | blank | unlisted | found | nowhere => exact Or.inl rfl
  | refused _ hlist hregion _ =>
    exact Or.inr ⟨.mk (Machines.showsNoMachine_of_nil hlist) (Platform.showsRegion_of_ok hregion),
      nofun⟩
  | launched _ hlist hregion hmade =>
    exact Or.inr ⟨.mk (Machines.showsNoMachine_of_nil hlist) (Platform.showsRegion_of_ok hregion),
      fun _ => ⟨_, rfl, Machines.showsMachine_of_launch hmade⟩⟩

theorem MachineCourse.launches_le_one {image : String} {shipper : App} {r : Except Fault Unit}
    (h : MachineCourse image shipper xs r) : launches xs ≤ 1 := by
  rcases h.launching with hnone | ⟨hone, -⟩
  · exact hnone ▸ Nat.zero_le 1
  · exact hone.launches.le

/-! ## Two launches in one setup

  The machine step is taken once for a shipper that is created, and once more for every shipper.
  So there can be two launches, the second only where the listing does not show the first. -/

/-- A shipper is created, and a machine of it is launched, given an id, and missing from the listing
    that follows, so that another one is launched.  Nothing else is. -/
inductive Relaunched (image : String) : List Exchange → Prop
  | mk {before organization creation shipper first second after} :
      launches before = 0 → launches after = 0 → GivesNewApp creation shipper →
      Launching image shipper first → EndsWithMachine shipper first →
        Launching image shipper second →
      Relaunched image
        (before ++ (createShipperCall organization, creation) :: (first ++ (second ++ after)))

theorem Relaunched.launches {image : String} (h : Relaunched image xs) : launches xs = 2 := by
  obtain ⟨hbefore, hafter, -, hfirst, -, hsecond⟩ := h
  simp only [launches_append, launches_creation, hbefore, hafter, hfirst.launches, hsecond.launches]

/-- **A shipper gets a machine where it is ensured only if it is new**, and one only. -/
theorem ShipperCourse.launching {image : String} {organization : Organization}
    {r : Except Fault App} (h : ShipperCourse image organization xs r) : launches xs = 0 ∨
      ∃ reply creation shipper ys,
        xs = [(shippersCall organization, reply)] ++
        (createShipperCall organization, creation) :: ys ∧
        GivesNewApp creation shipper ∧ Launching image shipper ys ∧
        ∀ found, r = .ok found → found = shipper ∧ EndsWithMachine shipper ys := by
  cases h with
  | unlisted | found | refused => exact Or.inl rfl
  | @created reply creation shipper ys _ _ hmade hequip =>
    have hnew := Platform.given_createApp_iff.mp hmade
    -- a shipper is created, and its machine ensured: this launches once or not at all
    cases hequip with
    | stopped hmachine =>
      rcases hmachine.launching with hnone | ⟨hone, -⟩
      · exact Or.inl hnone
      · exact Or.inr ⟨reply, creation, shipper, ys, rfl, hnew, hone, nofun⟩
    | went hmachine hplain =>
      obtain ⟨rfl, rfl⟩ := hplain.eq
      rw [List.append_nil]
      rcases hmachine.launching with hnone | ⟨hone, hends⟩
      · exact Or.inl hnone
      · refine Or.inr ⟨reply, creation, shipper, _, rfl, hnew, hone, ?_⟩
        rintro _ ⟨⟩
        exact ⟨rfl, hends rfl⟩

/-- At most one machine is launched, or one and then another. -/
def LaunchesOnceOrAgain (image : String) (xs : List Exchange) : Prop :=
  launches xs ≤ 1 ∨ Relaunched image xs

theorem LaunchesOnceOrAgain.after {image : String} (h : LaunchesOnceOrAgain image xs)
    {before : List Exchange} (hbefore : launches before = 0) :
    LaunchesOnceOrAgain image (before ++ xs) := by
  rcases h with hfew | hagain
  · left
    rw [launches_append, hbefore, Nat.zero_add]
    exact hfew
  · right
    obtain ⟨hearlier, hafter, hnew, hfirst, hends, hsecond⟩ := hagain
    rw [← List.append_assoc]
    refine .mk ?_ hafter hnew hfirst hends hsecond
    rw [launches_append, hbefore, hearlier]

/-- After the shipper is ensured there is the machine step, and nothing that launches. -/
theorem exists_machineCourse {image : String} {target shipper : App} {provider : Provider}
    {secrets : List Secret} {r : Except Fault Summary}
    (h : Then (MachineCourse image shipper) (fun _ => Then (DeployCourse shipper secrets) fun _ =>
      Plain (.ok (summaryOf target provider secrets shipper))) xs r) :
    ∃ ys zs q, xs = ys ++ zs ∧ MachineCourse image shipper ys q ∧ launches zs = 0 := by
  cases h with
  | stopped hmachine => exact ⟨xs, [], _, (List.append_nil xs).symm, hmachine, rfl⟩
  | went hmachine hrest =>
    refine ⟨_, _, _, rfl, hmachine, ?_⟩
    cases hrest with
    | stopped hdeployed => exact hdeployed.launches_eq_zero
    | went hdeployed hplain =>
      obtain ⟨rfl, -⟩ := hplain.eq
      rw [List.append_nil]
      exact hdeployed.launches_eq_zero

/-- What a setup launches once the provider's secrets are there. -/
theorem launchesOnceOrAgain_of_provided {image : String} {target : App} {provider : Provider}
    {secrets : List Secret} {r : Except Fault Summary}
    (h : Then (ShipperCourse image target.organization) (fun shipper =>
      Then (MachineCourse image shipper) fun _ =>
        Then (DeployCourse shipper secrets) fun _ =>
          Plain (.ok (summaryOf target provider secrets shipper))) xs r) :
    LaunchesOnceOrAgain image xs := by
  cases h with
  -- the shipper was not had: its machine, if there was one, is all that was launched
  | stopped hshipped =>
    left
    rcases hshipped.launching with hnone | ⟨_, _, _, _, rfl, -, hone, -⟩
    · exact hnone ▸ Nat.zero_le 1
    · rw [launches_append, launches_creation, hone.launches]
      exact le_rfl
  | @went shipped shipper _ _ hshipped hrest =>
    obtain ⟨ys, zs, q, rfl, hmachine, hafter⟩ := exists_machineCourse hrest
    rcases hshipped.launching with hnone |
      ⟨reply, creation, created, first, rfl, hnew, hone, hfound⟩
    · left
      rw [launches_append, launches_append, hnone, hafter, Nat.zero_add]
      exact hmachine.launches_le_one
    · -- the shipper is new, and its machine was launched when it was created
      obtain ⟨rfl, hends⟩ := hfound shipper rfl
      rcases hmachine.launching with hnone | ⟨hagain, -⟩
      · left
        rw [launches_append, launches_append, launches_append, launches_creation, hone.launches,
          hnone, hafter]
        exact le_rfl
      · right
        have hlooked : launches [(shippersCall target.organization, reply)] = 0 := rfl
        rw [List.append_assoc, List.cons_append]
        exact .mk hlooked hafter hnew hone hends hagain

/-- **What a setup launches**: one machine at most, or two. -/
theorem ShipCourse.launchesOnceOrAgain {image appName : String} {answers : Answers}
    {r : Except Fault Summary} (h : ShipCourse image appName answers xs r) :
    LaunchesOnceOrAgain image xs := by
  cases h with
  | stopped htarget =>
    obtain ⟨reply, rfl, -⟩ := htarget.exists_reply
    exact Or.inl (Nat.zero_le 1)
  | went htarget hrest =>
  obtain ⟨reply, rfl, -⟩ := htarget.exists_reply
  refine LaunchesOnceOrAgain.after ?_ rfl
  cases hrest with
  | stopped hchoice =>
    obtain ⟨rfl, -⟩ := hchoice.eq
    exact Or.inl (Nat.zero_le 1)
  | went hchoice hchosen =>
  obtain ⟨rfl, -⟩ := hchoice.eq
  -- everything before the shipper is ensured launches nothing
  cases hchosen with
  | stopped hprovided => exact Or.inl (hprovided.launches_eq_zero ▸ Nat.zero_le 1)
  | went hprovided hrest =>
    exact (launchesOnceOrAgain_of_provided hrest).after hprovided.launches_eq_zero

/-- **A setup launches two machines at most**, whoever replies and whatever the replies are; and two
    exactly if the machine of a new shipper is missing from the listing after its launch. -/
theorem ship_relaunches {σ : Type} (respond : σ → Call → Reply × σ) (image appName : String)
    (answers : Answers) (s : σ) :
    let xs := ((ship image appName answers).run respond s).exchanges
    launches xs ≤ 2 ∧ (launches xs = 2 ↔ Relaunched image xs) := by
  intro xs
  rcases (shipCourse_of_run respond image appName answers s).launchesOnceOrAgain with hfew | hagain
  · have hlt : launches xs < 2 := Nat.lt_succ_of_le hfew
    exact ⟨hlt.le, iff_of_false hlt.ne fun hagain => hlt.ne hagain.launches⟩
  · exact ⟨hagain.launches.le, iff_of_true hagain.launches hagain⟩

/-! ## A listing without the new machine

  The cloud lists no machine after the launch, and a second one is launched. -/

namespace Unlisted

def organization : Organization := ⟨"org_acme", "acme", "acme"⟩

def shipper : App := ⟨"app_s", "acme-auto-log-shipper", organization⟩

def machine (id : String) : Machine := ⟨id, none, some "started", some "ord", none⟩

def region : Reply := Cloud.dataReply [("nearestRegion", .obj [("code", .str "ord")])]

/-- The shipper is created and its machine launched; the listing after that is empty. -/
def replies : List Reply :=
  [Cloud.dataReply [("app", App.toJson ⟨"app_web", "acme-web", organization⟩)],
   Cloud.dataReply [("apps", .obj [("nodes", .arr [])])],
   Cloud.dataReply [("createApp", .obj [("app", shipper.toJson)])],
   Cloud.jsonReply (.arr []), region, Cloud.jsonReply (machine "m_1").toJson,
   Cloud.jsonReply (.arr []), region, Cloud.jsonReply (machine "m_2").toJson,
   Cloud.dataReply
     [("createLimitedAccessToken", .obj [("limitedAccessToken", .obj [("token", .str "read")])])],
   Cloud.dataReply [],
   Cloud.dataReply [],
   Cloud.jsonReply (.arr [])]

/-- What the setup reports. -/
def summary : Summary :=
  { targetApp := "acme-web", provider := "datadog", shipperAppId := "app_s"
    shipperAppName := "acme-auto-log-shipper", addOnProvisioned := false
    secretsWritten := ["NATS_TOKEN", "DATADOG_API_KEY"] }

end Unlisted

open Unlisted in
/-- **A machine that was launched and given an id is launched again**: the listing after its launch
    is empty, and the setup ends well with two machines. -/
theorem relaunches_unlisted :
    let run := (ship defaultImage "acme-web"
      (.of (some "datadog") [("DATADOG_API_KEY", "key")])).run nextReply replies
    run.result = .ok summary ∧
      kinds run.exchanges =
        [.app, .appsByRole, .createApp, .list, .region, .launch, .list, .region, .launch, .token,
          .secrets, .secrets, .list] ∧
      (run.exchanges.map Prod.snd)[5]? = some (Cloud.jsonReply (machine "m_1").toJson) ∧
      (Machines.launch shipper.name (shipperLaunch defaultImage "ord")).given
        (Cloud.jsonReply (machine "m_1").toJson) = .ok (machine "m_1") ∧
      ¬ launches run.exchanges ≤ 1 :=
  ⟨by decide +kernel, by decide +kernel, by decide +kernel, by decide +kernel, by decide +kernel⟩

end LogDrain.Setup
