/-
  THE SEQUENCE OF A SETUP: which calls it makes, in which order, and where it breaks off.

  The kinds of the calls form a word.  `setupWords auto n` are the words of setups that go to their
  end and restart `n` machines; they are made from smaller languages with `*` (one after the other)
  and `+` (either of the two), `1` being the language of the empty word.

    (1) the calls of every run begin such a word (`Spelled`);
    (2) a run that ends well has made a whole word, and has restarted as many machines as its last
        listing shows (`Restarted`);
    (3) a call follows another one only if the reply to that was accepted, or if an add-on was not
        found and is now created (`Orderly.chain`);
    (4) a run that stops does so because of the last reply, or for a reason of its own that no reply
        gave (`Orderly.blamed`).

  All four hold of a course step by step: each step has its language and its place for a fault, and
  `Then` puts the languages and the places together.  Whole words can be counted: each has one token
  (`count_token`).
-/
import LogDrain.Proofs.Course
import LogDrain.Proofs.Reading
import Mathlib.Computability.Language
import Mathlib.Data.List.Chain

namespace LogDrain

/-- The kinds of calls. -/
inductive CallKind where
  | app
  | appsByRole
  | createApp
  | addOn
  | createAddOn
  | token
  | secrets
  | region
  | list
  | launch
  | restart
  | wait
  deriving DecidableEq, Repr

/-- The kind of a call. -/
def Call.kind : Call → CallKind
  | .query (.app _) => .app
  | .query (.appsByRole ..) => .appsByRole
  | .query (.createApp ..) => .createApp
  | .query (.addOn _) => .addOn
  | .query (.createAddOn ..) => .createAddOn
  | .query (.createToken ..) => .token
  | .query (.setSecrets ..) => .secrets
  | .query .nearestRegion => .region
  | .machines _ .list => .list
  | .machines _ (.launch _) => .launch
  | .machines _ (.restart _) => .restart
  | .machines _ (.wait ..) => .wait

namespace Setup

open Procedure

variable {α β : Type}

/-! ## The grammar

  The kinds of calls are letters.  The languages are those of Mathlib, so that `*` and `+` have
  their laws, and a word of a setup is read off the definitions. -/

/-- The kinds of the calls of a run, in order. -/
def kinds (xs : List Exchange) : List CallKind := xs.map (·.1.kind)

@[simp] theorem kinds_cons (x : Exchange) (xs : List Exchange) :
    kinds (x :: xs) = x.1.kind :: kinds xs := rfl

/-- The kinds of two runs in a row are the kinds of the first and then those of the second. -/
@[simp] theorem kinds_append (xs ys : List Exchange) : kinds (xs ++ ys) = kinds xs ++ kinds ys :=
  List.map_append

/-- The kinds depend on the calls only, not on the replies. -/
theorem kinds_eq_map (xs : List Exchange) : kinds xs = (xs.map Prod.fst).map Call.kind := by
  rw [List.map_map]
  rfl

/-- Words over the kinds of calls. -/
abbrev Words := Language CallKind

/-- A machine is looked for, and launched in the nearest region or not. -/
def machineWords : Words := {[.list]} + {[.list, .region, .launch]}

/-- An add-on is looked for, and created or not. -/
def addOnWords : Words := {[.addOn]} + {[.addOn, .createAddOn]}

/-- Only an automatic provider needs calls. -/
def providerWords (auto : Bool) : Words := if auto then addOnWords else 1

/-- A shipper is looked for, and created with its machine or not. -/
def shipperWords : Words := {[.appsByRole]} * (1 + {[.createApp]} * machineWords)

/-- A token is issued and written, and the provider's secrets are written if there are any. -/
def writingWords : Words := {[.token]} * ({[.secrets]} * (1 + {[.secrets]}))

/-- Everything before the restarts. -/
def preludeWords (auto : Bool) : Words :=
  {[.app]} * (providerWords auto * (shipperWords * (machineWords * writingWords)))

/-- Machines are listed, and this many are restarted. -/
def restartWords (n : Nat) : Words := {.list :: List.replicate n .restart}

/-- The setups that restart this many machines. -/
def setupWords (auto : Bool) (n : Nat) : Words := preludeWords auto * restartWords n

/-- Does the choice fall on an automatic provider? -/
def choosesAutomatic (answers : Answers) : Bool :=
  match answers.select Provider.catalog with
  | .ok provider => provider.auto
  | .error _ => false

/-! ## Runs that begin a word, and make it whole if they end well

  A run that breaks off has made the beginning of a word, and of which word is not settled by
  then.  So `Spelled` says that there is some word which is begun; and if the run ends well it has
  made a whole one. -/

/-- The calls begin a word of the language, and are a whole one where the run ends with a value. -/
structure Spelled (L : Words) (xs : List Exchange) (r : Except Fault α) : Prop where
  begun : ∃ w ∈ L, kinds xs <+: w
  complete : ∀ value, r = .ok value → kinds xs ∈ L

/-- A whole word will do, whatever the result. -/
theorem Spelled.of_mem {L : Words} {xs : List Exchange} {r : Except Fault α} (h : kinds xs ∈ L) :
    Spelled L xs r :=
  ⟨⟨_, h, List.prefix_refl _⟩, fun _ _ => h⟩

/-- A run that stops need only begin a word. -/
theorem Spelled.of_begun {L : Words} {xs : List Exchange} {fault : Fault} {w : List CallKind}
    (hw : w ∈ L) (h : kinds xs <+: w) : Spelled L xs (.error fault : Except Fault α) :=
  ⟨⟨w, hw, h⟩, fun _ hr => by cases hr⟩

/-- A run that goes on after a whole word makes a word of the product. -/
theorem Spelled.append {L M : Words} {xs ys : List Exchange} {value : α} {r : Except Fault β}
    (hx : Spelled L xs (.ok value)) (hy : Spelled M ys r) : Spelled (L * M) (xs ++ ys) r := by
  have hwhole := hx.complete value rfl
  obtain ⟨w, hw, hbegun⟩ := hy.begun
  -- the first run made a whole word, so only the second one can be broken off
  refine ⟨⟨kinds xs ++ w, Language.append_mem_mul hwhole hw, ?_⟩, fun v hr => ?_⟩
  · rw [kinds_append]
    exact (List.prefix_append_right_inj _).mpr hbegun
  · rw [kinds_append]
    exact Language.append_mem_mul hwhole (hy.complete v hr)

/-- A run that stops in the first of two languages begins a word of the product. -/
theorem Spelled.stopped {L M : Words} {xs : List Exchange} {fault : Fault}
    (hx : Spelled L xs (.error fault : Except Fault α)) (hM : ∃ w, w ∈ M) :
    Spelled (L * M) xs (.error fault : Except Fault β) := by
  obtain ⟨w, hw, hbegun⟩ := hx.begun
  obtain ⟨u, hu⟩ := hM
  exact .of_begun (Language.append_mem_mul hw hu) (hbegun.trans (List.prefix_append _ _))

/-- **One after the other**: the languages of two steps are multiplied. -/
theorem Then.spelled {L M : Words} {P : Course α} {Q : α → Course β} {xs : List Exchange}
    {r : Except Fault β} (h : Then P Q xs r) (hP : ∀ {xs r}, P xs r → Spelled L xs r)
    (hQ : ∀ {xs value ys r}, P xs (.ok value) → Q value ys r → Spelled M ys r) (hM : ∃ w, w ∈ M) :
    Spelled (L * M) xs r := by
  cases h with
  | stopped hstop => exact (hP hstop).stopped hM
  | went hfirst hrest => exact (hP hfirst).append (hQ hfirst hrest)

theorem Plain.spelled {e r : Except Fault α} {xs : List Exchange} (h : Plain e xs r) :
    Spelled 1 xs r := by
  obtain ⟨⟩ := h
  exact .of_mem Language.nil_mem_one

/-- One call spells its kind, and the one letter is begun and ended at once. -/
theorem Once.spelled {call : Call} {p : Procedure α} {r : Except Fault α} {xs : List Exchange}
    (h : Once call p xs r) : Spelled {[call.kind]} xs r := by
  obtain ⟨reply⟩ := h
  exact .of_mem (Set.mem_singleton _)

/-- A language that can be ended is needed behind every step that may stop: what was called so far
    is to begin some whole word. -/
theorem exists_mem_mul {L M : Words} (hL : ∃ w, w ∈ L) (hM : ∃ w, w ∈ M) : ∃ w, w ∈ L * M := by
  obtain ⟨u, hu⟩ := hL
  obtain ⟨v, hv⟩ := hM
  exact ⟨u ++ v, Language.append_mem_mul hu hv⟩

theorem exists_mem_singleton (w : List CallKind) : ∃ u, u ∈ ({w} : Words) :=
    ⟨w, Set.mem_singleton w⟩

/-! ## The words of the steps

  One language for each course.  Where a run may stop early, some whole word has to be named that
  it begins, which is why each language has a word at all. -/

theorem machineWords_possible : ∃ w, w ∈ machineWords := ⟨_, Or.inl rfl⟩

theorem shipperWords_possible : ∃ w, w ∈ shipperWords :=
  exists_mem_mul (exists_mem_singleton _) ⟨[], Or.inl rfl⟩

theorem writingWords_possible : ∃ w, w ∈ writingWords :=
  exists_mem_mul (exists_mem_singleton _) (exists_mem_mul (exists_mem_singleton _) ⟨[], Or.inl rfl⟩)

theorem AddOnCourse.spelled {target : App} {slug : String} {xs : List Exchange}
    {r : Except Fault String} (h : AddOnCourse target slug xs r) : Spelled addOnWords xs r := by
  cases h with
  | found | failed | unsupported => exact .of_mem (Or.inl rfl)
  | refused | created => exact .of_mem (Or.inr rfl)

/-- Only an automatic provider asks for anything, namely for its add-on. -/
theorem ProviderCourse.spelled {target : App} {provider : Provider} {answers : Answers}
    {xs : List Exchange} {r : Except Fault (List Secret)}
    (h : ProviderCourse target provider answers xs r) :
    Spelled (providerWords provider.auto) xs r := by
  unfold ProviderCourse at h
  unfold providerWords
  split at h
  · rename_i hauto
    rw [if_pos hauto, ← mul_one addOnWords]
    exact h.spelled AddOnCourse.spelled (fun _ hplain => hplain.spelled) ⟨[], rfl⟩
  · rename_i hauto
    rw [if_neg hauto]
    exact h.spelled

/-- The machines are listed, and where there are none a region is asked for and a machine launched
    there. -/
theorem MachineCourse.spelled {image : String} {shipper : App} {xs : List Exchange}
    {r : Except Fault Unit} (h : MachineCourse image shipper xs r) : Spelled machineWords xs r := by
  cases h with
  | blank => exact .of_begun (Or.inl rfl) List.nil_prefix
  | unlisted | found => exact .of_mem (Or.inl rfl)
  | nowhere => exact .of_begun (Or.inr rfl) ⟨[.launch], rfl⟩
  | refused | launched => exact .of_mem (Or.inr rfl)

/-- The shippers are looked up; if there are none, one is created and gets its machine. -/
theorem ShipperCourse.spelled {image : String} {organization : Organization} {xs : List Exchange}
    {r : Except Fault App} (h : ShipperCourse image organization xs r) :
    Spelled shipperWords xs r := by
  have hfirst : ∀ w ∈ 1 + {[.createApp]} * machineWords, .appsByRole :: w ∈ shipperWords :=
    fun w hw => Language.append_mem_mul (Set.mem_singleton _) hw
  cases h with
  | unlisted | found => exact .of_mem (hfirst [] (Or.inl rfl))
  | refused =>
    -- the creation was refused: any whole word of the machine shows what it begins
    obtain ⟨w, hw⟩ := machineWords_possible
    have hwhole := hfirst _ (Or.inr (Language.append_mem_mul (Set.mem_singleton _) hw))
    exact .of_begun hwhole ⟨w, rfl⟩
  | created _ _ hequip =>
    -- what follows the creation begins a word of the machine, and the two first letters stand in
    -- front
    have hspelled : Spelled (machineWords * 1) _ _ :=
      hequip.spelled MachineCourse.spelled (fun _ hplain => hplain.spelled) ⟨[], rfl⟩
    rw [mul_one] at hspelled
    obtain ⟨⟨w, hw, hbegun⟩, hcomplete⟩ := hspelled
    have hgo : ∀ u ∈ machineWords, .appsByRole :: .createApp :: u ∈ shipperWords := fun u hu =>
      hfirst _ (Or.inr (Language.append_mem_mul (Set.mem_singleton _) hu))
    refine ⟨⟨_, hgo w hw, ?_⟩, fun value hr => hgo _ (hcomplete value hr)⟩
    exact List.cons_prefix_cons.mpr ⟨rfl, List.cons_prefix_cons.mpr ⟨rfl, hbegun⟩⟩

theorem CredentialCourse.spelled {shipper : App} {xs : List Exchange} {r : Except Fault Unit}
    (h : CredentialCourse shipper xs r) : Spelled ({[.token]} * {[.secrets]}) xs r :=
  Then.spelled h Once.spelled (fun _ hwrite => hwrite.spelled) (exists_mem_singleton _)

/-- The provider's secrets are written with one call, or not at all if there are none. -/
theorem SecretsCourse.spelled {shipper : App} {secrets : List Secret} {xs : List Exchange}
    {r : Except Fault Unit} (h : SecretsCourse shipper secrets xs r) :
    Spelled (1 + {[.secrets]}) xs r := by
  unfold SecretsCourse at h
  split at h
  · obtain ⟨⟩ := h
    exact .of_mem (Or.inl rfl)
  · obtain ⟨reply⟩ := h
    exact .of_mem (Or.inr rfl)

/-- Restarts without waiting are nothing but restarts, and one for each machine if none is
    refused. -/
theorem RestartCourse.kinds_eq {app : String} {machines : List Machine} {xs : List Exchange}
    {r : Except Fault Unit} (h : RestartCourse app true machines xs r) :
    ∃ n, kinds xs = List.replicate n .restart ∧ ∀ value, r = .ok value → n = machines.length := by
  induction h with
  | nil => exact ⟨0, rfl, fun _ _ => rfl⟩
  | unnamed => exact ⟨0, rfl, fun _ hr => by cases hr⟩
  | refused => exact ⟨1, rfl, fun _ hr => by cases hr⟩
  | unready _ hskip => cases hskip
  | skipped _ _ _ _ ih =>
    obtain ⟨n, hkinds, hlength⟩ := ih
    refine ⟨n + 1, ?_, fun value hr => ?_⟩
    · rw [kinds_cons, hkinds]
      rfl
    · rw [hlength value hr, List.length_cons]
  | waited _ hskip => cases hskip

/-- Some machines are restarted. -/
def someRestarts : Words := {w | ∃ n, w ∈ restartWords n}

/-- The machines are listed and restarted.  How many there are is known only from the reply, so the
    language is that of any number of restarts. -/
theorem RedeployCourse.spelled {target : App} {xs : List Exchange} {r : Except Fault Nat}
    (h : RedeployCourse target true xs r) : Spelled someRestarts xs r := by
  cases h with
  | blank => exact .of_begun ⟨0, rfl⟩ List.nil_prefix
  | unlisted => exact .of_mem ⟨0, rfl⟩
  | listed _ _ hrestart =>
    obtain ⟨n, hkinds, -⟩ := hrestart.kinds_eq
    refine .of_mem ⟨n, ?_⟩
    rw [kinds_cons, hkinds]
    rfl

/-! ## How a run ends that ends well

  The number of restarts is not in the grammar but in the last listing.  So the restarts are
  looked at apart from the word before them. -/

/-- After a word of the language machines are listed, and each one is restarted. -/
def Restarted (L : Words) (xs : List Exchange) : Prop :=
  ∃ before app listing machines after, xs = before ++ (.machines app .list, listing) :: after ∧
    kinds before ∈ L ∧ (Machines.list app).given listing = .ok machines ∧
    kinds after = List.replicate machines.length .restart

/-- A run before, whose calls are a word, is put in front of the word. -/
theorem Restarted.append {L M : Words} {xs ys : List Exchange} (hx : kinds xs ∈ L)
    (hy : Restarted M ys) : Restarted (L * M) (xs ++ ys) := by
  obtain ⟨before, app, listing, machines, after, rfl, hbefore, hlist, hafter⟩ := hy
  refine ⟨xs ++ before, app, listing, machines, after, ?_, ?_, hlist, hafter⟩
  · rw [List.append_assoc]
  · rw [kinds_append]
    exact Language.append_mem_mul hx hbefore

/-- If the second step restarts what its listing shows, so do the two together. -/
theorem Then.restarted {L M : Words} {P : Course α} {Q : α → Course β} {xs : List Exchange}
    {value : β} (h : Then P Q xs (.ok value)) (hP : ∀ {xs r}, P xs r → Spelled L xs r)
    (hQ : ∀ {xs first ys last}, P xs (.ok first) → Q first ys (.ok last) → Restarted M ys) :
    Restarted (L * M) xs := by
  cases h with
  | went hfirst hrest => exact .append ((hP hfirst).complete _ rfl) (hQ hfirst hrest)

/-- What only makes a value of the last one has no part in how the run ends. -/
theorem Then.of_plain {P : Course α} {e : α → Except Fault β} {xs : List Exchange} {value : β}
    (h : Then P (fun first => Plain (e first)) xs (.ok value)) : ∃ first, P xs (.ok first) := by
  cases h with
  | went hfirst hrest =>
    generalize (.ok value : Except Fault β) = r at hrest
    cases hrest
    rw [List.append_nil]
    exact ⟨_, hfirst⟩

/-- **A redeployment that ends well restarts the machines of its listing**, one call for each. -/
theorem RedeployCourse.restarted {target : App} {xs : List Exchange} {count : Nat}
    (h : RedeployCourse target true xs (.ok count)) : Restarted 1 xs := by
  generalize hr : (.ok count : Except Fault Nat) = r at h
  cases h with
  | blank | unlisted => cases hr
  | @listed listing machines _ q _ hlist hrestart =>
    obtain ⟨n, hkinds, hlength⟩ := hrestart.kinds_eq
    cases q with
    | error fault => cases hr
    | ok value =>
      rw [hlength value rfl] at hkinds
      exact ⟨[], target.name, listing, machines, _, rfl, rfl, hlist, hkinds⟩

/-! ## The words of the whole

  The languages in a row, as the courses are. -/

theorem DeployCourse.spelled {shipper : App} {secrets : List Secret} {xs : List Exchange}
    {r : Except Fault Nat} (h : DeployCourse shipper secrets xs r) :
    Spelled (writingWords * someRestarts) xs r := by
  have hmany : ∃ w, w ∈ someRestarts := ⟨_, 0, rfl⟩
  have hspelled := Then.spelled h CredentialCourse.spelled
    (fun _ hrest => hrest.spelled SecretsCourse.spelled (fun _ hdeploy => hdeploy.spelled) hmany)
    (exists_mem_mul ⟨[], Or.inl rfl⟩ hmany)
  simpa only [writingWords, mul_assoc] using hspelled

/-- A deployment ends with the redeployment, so it ends with the restarts of its own last
    listing. -/
theorem DeployCourse.restarted {shipper : App} {secrets : List Secret} {xs : List Exchange}
    {count : Nat} (h : DeployCourse shipper secrets xs (.ok count)) :
    Restarted writingWords xs := by
  have hrestarted := Then.restarted h CredentialCourse.spelled
    fun _ hrest => hrest.restarted SecretsCourse.spelled fun _ hdeploy => hdeploy.restarted
  simpa only [writingWords, mul_assoc, mul_one] using hrestarted

/-- Everything after the choice of the provider, before the restarts. -/
def chosenWords (auto : Bool) : Words :=
  providerWords auto * (shipperWords * (machineWords * writingWords))

/-- With a chosen provider: its secrets, the shipper and its machine, and the deployment. -/
theorem ChosenCourse.spelled {image : String} {target : App} {provider : Provider}
    {answers : Answers} {xs : List Exchange} {r : Except Fault Summary}
    (h : ChosenCourse image target provider answers xs r) :
    Spelled (chosenWords provider.auto * someRestarts) xs r := by
  have hdeploy : ∃ w, w ∈ writingWords * someRestarts * 1 :=
    exists_mem_mul (exists_mem_mul writingWords_possible ⟨_, 0, rfl⟩) ⟨[], rfl⟩
  have hmachine := exists_mem_mul machineWords_possible hdeploy
  have hspelled := Then.spelled h ProviderCourse.spelled
    (fun _ hshipper => hshipper.spelled ShipperCourse.spelled
      (fun _ hequip => hequip.spelled MachineCourse.spelled
        (fun _ hdeployed => hdeployed.spelled DeployCourse.spelled
          (fun _ hplain => hplain.spelled) ⟨[], rfl⟩) hdeploy) hmachine)
    (exists_mem_mul shipperWords_possible hmachine)
  simpa only [chosenWords, mul_assoc, mul_one] using hspelled

/-- The last listing of such a run is that of the deployment, whatever was listed before. -/
theorem ChosenCourse.restarted {image : String} {target : App} {provider : Provider}
    {answers : Answers} {xs : List Exchange} {summary : Summary}
    (h : ChosenCourse image target provider answers xs (.ok summary)) :
    Restarted (chosenWords provider.auto) xs := by
  refine Then.restarted h ProviderCourse.spelled fun _ hshipper => ?_
  refine hshipper.restarted ShipperCourse.spelled fun _ hequip => ?_
  refine hequip.restarted MachineCourse.spelled fun _ hdeployed => ?_
  obtain ⟨count, hcount⟩ := hdeployed.of_plain
  exact hcount.restarted

/-- The grammar speaks of the answers, the course of the provider that was selected from them; the
    two agree on whether it is automatic. -/
theorem choosesAutomatic_of_plain {answers : Answers} {provider : Provider} {xs : List Exchange}
    (h : Plain ((answers.select Provider.catalog).mapError .answers) xs (.ok provider)) :
    choosesAutomatic answers = provider.auto := by
  unfold choosesAutomatic
  cases hselect : answers.select Provider.catalog with
  | error cause =>
    rw [hselect] at h
    cases h
  | ok chosen =>
    rw [hselect] at h
    cases h
    rfl

/-- **The calls of a setup begin a word of the grammar.** -/
theorem ShipCourse.spelled {image appName : String} {answers : Answers} {xs : List Exchange}
    {r : Except Fault Summary} (h : ShipCourse image appName answers xs r) :
    Spelled (preludeWords (choosesAutomatic answers) * someRestarts) xs r := by
  have hchosen : ∃ w, w ∈ chosenWords (choosesAutomatic answers) * someRestarts := by
    have hprovider : ∃ w, w ∈ providerWords (choosesAutomatic answers) := by
      cases choosesAutomatic answers
      · exact ⟨[], rfl⟩
      · exact ⟨_, Or.inl rfl⟩
    exact exists_mem_mul (exists_mem_mul hprovider (exists_mem_mul shipperWords_possible
      (exists_mem_mul machineWords_possible writingWords_possible))) ⟨_, 0, rfl⟩
  -- the language depends on the choice, which the run makes only after its first call
  have hspelled : Spelled ({[.app]} * (1 * (chosenWords (choosesAutomatic answers) * someRestarts)))
      xs r := by
    refine Then.spelled h Once.spelled (fun _ hselect => ?_) (exists_mem_mul ⟨[], rfl⟩ hchosen)
    refine hselect.spelled Plain.spelled (fun hplain hrun => ?_) hchosen
    rw [choosesAutomatic_of_plain hplain]
    exact hrun.spelled
  simpa only [preludeWords, chosenWords, mul_assoc, one_mul] using hspelled

/-- **A setup that ends well has made a whole word**, with one restart for each machine of its last
    listing. -/
theorem ShipCourse.restarted {image appName : String} {answers : Answers} {xs : List Exchange}
    {summary : Summary} (h : ShipCourse image appName answers xs (.ok summary)) :
    Restarted (preludeWords (choosesAutomatic answers)) xs := by
  have hrestarted : Restarted ({[.app]} * (1 * chosenWords (choosesAutomatic answers))) xs := by
    refine Then.restarted h Once.spelled fun _ hselect => ?_
    refine hselect.restarted Plain.spelled fun hplain hrun => ?_
    rw [choosesAutomatic_of_plain hplain]
    exact hrun.restarted
  simpa only [preludeWords, chosenWords, mul_assoc, one_mul] using hrestarted

/-! ## One token for each setup

  Whole words can be counted, by the laws of `*` and `+`. -/

/-- Where each word of two languages has a fixed number of calls of a kind, so has each word of the
    product. -/
theorem count_of_mem_mul {L M : Words} {kind : CallKind} {a b : ℕ} (hL : ∀ w ∈ L, w.count kind = a)
    (hM : ∀ w ∈ M, w.count kind = b) : ∀ w ∈ L * M, w.count kind = a + b := by
  intro w hw
  obtain ⟨u, hu, v, hv, rfl⟩ := Language.mem_mul.mp hw
  rw [List.count_append, hL u hu, hM v hv]

/-- Either way, the words have the same number of calls of the kind. -/
theorem count_of_mem_add {L M : Words} {kind : CallKind} {a : ℕ} (hL : ∀ w ∈ L, w.count kind = a)
    (hM : ∀ w ∈ M, w.count kind = a) : ∀ w ∈ L + M, w.count kind = a := by
  rintro w (hw | hw)
  · exact hL w hw
  · exact hM w hw

theorem count_of_mem_singleton {kind : CallKind} (w : List CallKind) :
    ∀ u ∈ ({w} : Words), u.count kind = w.count kind := by
  rintro u rfl
  rfl

/-- **A whole setup issues one token.** -/
theorem count_token {auto : Bool} {n : ℕ} : ∀ w ∈ setupWords auto n, w.count .token = 1 := by
  have hone : ∀ w ∈ (1 : Words), w.count CallKind.token = 0 := by
    rintro w rfl
    rfl
  have hmachine : ∀ w ∈ machineWords, w.count .token = 0 :=
    count_of_mem_add (count_of_mem_singleton _) (count_of_mem_singleton _)
  have hprovider : ∀ w ∈ providerWords auto, w.count .token = 0 := by
    cases auto
    · exact hone
    · exact count_of_mem_add (count_of_mem_singleton _) (count_of_mem_singleton _)
  have hshipper : ∀ w ∈ shipperWords, w.count .token = 0 :=
    count_of_mem_mul (count_of_mem_singleton _)
      (count_of_mem_add hone (count_of_mem_mul (count_of_mem_singleton _) hmachine))
  have hwriting : ∀ w ∈ writingWords, w.count .token = 1 :=
    count_of_mem_mul (count_of_mem_singleton _)
      (count_of_mem_mul (count_of_mem_singleton _)
        (count_of_mem_add hone (count_of_mem_singleton _)))
  have hrestart : ∀ w ∈ restartWords n, w.count .token = 0 := by
    rintro w rfl
    rw [List.count_cons, List.count_replicate]
    rfl
  -- the token is issued once, in the writing, and no other part of the word issues one
  have hprelude : ∀ w ∈ preludeWords auto, w.count .token = 1 :=
    count_of_mem_mul (count_of_mem_singleton _) (count_of_mem_mul hprovider
      (count_of_mem_mul hshipper (count_of_mem_mul hmachine hwriting)))
  exact count_of_mem_mul hprelude hrestart

end Setup

end LogDrain
