/-
  THE ORDER OF A SETUP: what may follow what, and whose fault it is when it stops.

  A setup is one step after the other, and the first fault ends it.  In terms of exchanges:

    * `Follows x y`     the reply of `x` was accepted, or `x` did not find an add-on and `y` creates
      it;
    * `Blames xs f`     the fault `f` was given by the last reply, or is a local one and the last
                        reply was accepted;
    * `Orderly xs r`    both of a run, kept when one run goes on after another (`Orderly.append`).

  Together with the grammar of the calls this is the whole sequence of a setup (`ship_sequenced`).

  Why a fault is blamed on the last reply and not on some reply: a reply that was refused ends the
  run, with the one exception that `Follows` names, so a fault can have no other cause than the
  last reply or the setup itself.
-/
import LogDrain.Proofs.Sequence

namespace LogDrain.Setup

open Procedure

variable {α β : Type}

/-! ## What may follow what

  Two relations, on two exchanges in a row and on the last exchange and the fault.  Both are about
  single replies, so neither needs the course. -/

/-- The second exchange may follow the first. -/
inductive Follows : Exchange → Exchange → Prop
  | accepted {x y} : x.IsAccepted → Follows x y
  | notFound {name reply fault organizationId appId addOnType made} :
      Exchange.refusal? (.query (.addOn name), reply) = some fault → fault.kind = .notFound →
      Follows (.query (.addOn name), reply)
        (.query (.createAddOn organizationId name appId addOnType), made)

/-- The last exchange, if there is one, was accepted. -/
def LastAccepted (xs : List Exchange) : Prop := ∀ x ∈ xs.getLast?, x.IsAccepted

/-- The exchange gave this add-on. -/
inductive Gave (addOn : AddOn) : Exchange → Prop
  | found {name reply} : (Platform.addOn name).given reply = .ok addOn →
      Gave addOn (.query (.addOn name), reply)
  | created {organizationId name appId addOnType reply} :
      (Platform.createAddOn organizationId name appId addOnType).given reply = .ok addOn →
      Gave addOn (.query (.createAddOn organizationId name appId addOnType), reply)

/-- Where a fault comes from: from the last reply, which was refused or gave an add-on without a
    token, or else from the answers or from a name that is blank. -/
inductive Blames (xs : List Exchange) : Fault → Prop
  | refused {x fault} : x ∈ xs.getLast? → x.refusal? = some fault → Blames xs fault
  | tokenless {x addOn} : x ∈ xs.getLast? → Gave addOn x → addOn.token = "" →
      Blames xs (.api (.noAddOnToken addOn.name))
  | answers {cause} : LastAccepted xs → Blames xs (.answers cause)
  | blankName : LastAccepted xs → Blames xs (.argument .blankApp)

/-- The exchanges follow one another, and end with an accepted one or with the fault. -/
structure Orderly (xs : List Exchange) (r : Except Fault α) : Prop where
  chain : xs.IsChain Follows
  accepted : ∀ value, r = .ok value → LastAccepted xs
  blamed : ∀ fault, r = .error fault → Blames xs fault

/-- An exchange that nothing may follow is the last one. -/
theorem Orderly.eq_nil {before after : List Exchange} {x : Exchange} {r : Except Fault α}
    (h : Orderly (before ++ x :: after) r) (hx : ∀ y, ¬ Follows x y) : after = [] := by
  cases after with
  | nil => rfl
  | cons y after =>
    have hchain := (List.isChain_append.mp h.chain).2.1
    exact absurd (List.isChain_cons_cons.mp hchain).1 (hx y)

/-! ## Runs that go on after one another

  A chain of two runs needs a link between them: the last reply of the first was accepted, since
  its value is what the second goes on from. -/

theorem mem_getLast?_append {xs ys : List Exchange} {y : Exchange} (h : y ∈ ys.getLast?) :
    y ∈ (xs ++ ys).getLast? := by
  rw [List.getLast?_append, Option.mem_def.mp h]
  rfl

/-- If the last reply of each was accepted, so was the last of both: that of the second, or of the
    first if the second asks for nothing. -/
theorem LastAccepted.append {xs ys : List Exchange} (hx : LastAccepted xs) (hy : LastAccepted ys) :
    LastAccepted (xs ++ ys) := by
  intro x hlast
  rw [List.getLast?_append] at hlast
  cases hys : ys.getLast? with
  | none =>
    rw [hys] at hlast
    exact hx x hlast
  | some y =>
    rw [hys] at hlast
    exact hy x (hys ▸ hlast)

/-- A fault of what comes second is blamed as it was there; a local one needs the replies before it
    accepted. -/
theorem Blames.append {xs ys : List Exchange} {fault : Fault} (hx : LastAccepted xs)
    (hy : Blames ys fault) : Blames (xs ++ ys) fault := by
  cases hy with
  | refused hlast hrefusal => exact .refused (mem_getLast?_append hlast) hrefusal
  | tokenless hlast hgave htoken => exact .tokenless (mem_getLast?_append hlast) hgave htoken
  | answers hlast => exact .answers (hx.append hlast)
  | blankName hlast => exact .blankName (hx.append hlast)

/-- **Where one run ends with a value, another one can go on.** -/
theorem Orderly.append {xs ys : List Exchange} {value : α} {r : Except Fault β}
    (hx : Orderly xs (.ok value)) (hy : Orderly ys r) : Orderly (xs ++ ys) r := by
  -- the first run ended with an accepted reply, which anything may follow
  have hlast := hx.accepted value rfl
  have hchain : (xs ++ ys).IsChain Follows := List.isChain_append.mpr
    ⟨hx.chain, hy.chain, fun x hxlast _ _ => .accepted (hlast x hxlast)⟩
  exact ⟨hchain, fun v hr => hlast.append (hy.accepted v hr),
    fun fault hr => .append hlast (hy.blamed fault hr)⟩

/-- Steps in a row are orderly, for each goes on only from the value of the one before. -/
theorem Then.orderly {P : Course α} {Q : α → Course β} {xs : List Exchange} {r : Except Fault β}
    (h : Then P Q xs r) (hP : ∀ {xs r}, P xs r → Orderly xs r)
    (hQ : ∀ {xs value ys r}, P xs (.ok value) → Q value ys r → Orderly ys r) : Orderly xs r := by
  cases h with
  | stopped hstop =>
    have hfirst := hP hstop
    refine ⟨hfirst.chain, nofun, fun _ hr => ?_⟩
    cases hr
    exact hfirst.blamed _ rfl
  | went hfirst hrest => exact (hP hfirst).append (hQ hfirst hrest)

/-! ## Single exchanges

  What one exchange contributes, by whether it was accepted. -/

theorem Orderly.nil (value : α) : Orderly [] (.ok value : Except Fault α) :=
  ⟨.nil, fun _ _ => nofun, nofun⟩

/-- A reply that the operation accepts. -/
theorem Orderly.of_ok {call : Call} {p : Procedure α} {reply : Reply} {first : α} (value : β)
    (hp : call.operation = p.forget) (h : p.given reply = .ok first) :
    Orderly [(call, reply)] (.ok value : Except Fault β) := by
  refine ⟨List.isChain_singleton _, fun _ _ x hx => ?_, nofun⟩
  cases hx
  exact Exchange.isAccepted_of_ok hp h

/-- A reply that the operation refuses. -/
theorem Orderly.of_error {call : Call} {p : Procedure α} {reply : Reply} {fault : Fault}
    (hp : call.operation = p.forget) (h : p.given reply = .error fault) :
    Orderly [(call, reply)] (.error fault : Except Fault β) := by
  refine ⟨List.isChain_singleton _, nofun, fun _ hr => ?_⟩
  cases hr
  exact .refused rfl (Exchange.refusal?_of_error hp h)

/-- A reply that is accepted, and what follows it. -/
theorem Orderly.ok_cons {call : Call} {p : Procedure α} {reply : Reply} {first : α}
    {ys : List Exchange} {r : Except Fault β} (hp : call.operation = p.forget)
    (h : p.given reply = .ok first) (hy : Orderly ys r) : Orderly ((call, reply) :: ys) r :=
  (Orderly.of_ok first hp h).append hy

/-- One call follows nothing, and if it stops the run, its own reply is to blame. -/
theorem Once.orderly {call : Call} {p : Procedure α} {xs : List Exchange} {r : Except Fault α}
    (h : Once call p xs r) (hp : call.operation = p.forget) : Orderly xs r := by
  obtain ⟨reply⟩ := h
  cases hgiven : p.given reply with
  | ok value => exact .of_ok value hp hgiven
  | error fault => exact .of_error hp hgiven

/-- A name that is blank, before anything is asked. -/
theorem Orderly.blank : Orderly [] (.error (.argument .blankApp) : Except Fault α) := by
  refine ⟨.nil, nofun, fun _ hr => ?_⟩
  cases hr
  exact .blankName nofun

/-- What the answers give, before anything is asked. -/
theorem Orderly.of_answers (e : Except AnswersFault α) : Orderly [] (e.mapError .answers) := by
  cases e with
  | ok value => exact .nil value
  | error cause =>
    refine ⟨.nil, nofun, fun _ hr => ?_⟩
    cases hr
    exact .answers nofun

/-- An add-on was given, and its token is there or not. -/
theorem Orderly.held {x : Exchange} {addOn : AddOn} (hx : x.IsAccepted) (hgave : Gave addOn x) :
    Orderly [x] (heldToken addOn) := by
  refine ⟨List.isChain_singleton _, fun _ _ y hy => ?_, fun fault hr => ?_⟩
  · cases hy
    exact hx
  · unfold heldToken at hr
    split at hr
    · rename_i htoken
      cases hr
      exact .tokenless rfl hgave htoken
    · cases hr

/-- What may come before the first exchange. -/
theorem Orderly.cons {x y : Exchange} {ys : List Exchange} {r : Except Fault α} (hxy : Follows x y)
    (h : Orderly (y :: ys) r) : Orderly (x :: y :: ys) r := by
  refine ⟨List.isChain_cons_cons.mpr ⟨hxy, h.chain⟩, fun value hr => ?_, fun fault hr => ?_⟩
  · intro z hz
    rw [List.getLast?_cons_cons] at hz
    exact h.accepted value hr z hz
  · have hblamed := h.blamed fault hr
    have hlast : (x :: y :: ys).getLast? = (y :: ys).getLast? := List.getLast?_cons_cons
    cases hblamed with
    | refused hz hrefusal => exact .refused (hlast ▸ hz) hrefusal
    | tokenless hz hgave htoken => exact .tokenless (hlast ▸ hz) hgave htoken
    | answers hz => exact .answers fun z hz' => hz z (hlast ▸ hz')
    | blankName hz => exact .blankName fun z hz' => hz z (hlast ▸ hz')

/-! ## The steps

  Each course is orderly, by the rules above.  The add-on is the one place where something follows
  a refused reply. -/

/-- The kind of add-on is known. -/
theorem AddOnCourse.orderly {target : App} {slug : String} {xs : List Exchange}
    {r : Except Fault String} (h : AddOnCourse target slug xs r)
    (hslug : Provider.addOnType? slug ≠ none) : Orderly xs r := by
  cases h with
  | found hfound => exact .held (Exchange.isAccepted_of_ok rfl hfound) (.found hfound)
  | failed hfound _ => exact .of_error rfl hfound
  | unsupported _ _ htype => exact absurd htype hslug
  | refused hfound hkind _ hmade =>
    exact .cons (.notFound (Exchange.refusal?_of_error rfl hfound) hkind)
      (.of_error (p := makeAddOn target _) rfl hmade)
  | created hfound hkind _ hmade =>
    exact .cons (.notFound (Exchange.refusal?_of_error rfl hfound) hkind)
      (.held (Exchange.isAccepted_of_ok (p := makeAddOn target _) rfl hmade) (.created hmade))

/-- A region is asked for after a listing without machines, and a machine launched after a
    region. -/
theorem MachineCourse.orderly {image : String} {shipper : App} {xs : List Exchange}
    {r : Except Fault Unit} (h : MachineCourse image shipper xs r) : Orderly xs r := by
  cases h with
  | blank => exact .blank
  | unlisted _ hlist => exact .of_error rfl hlist
  | found _ hlist _ => exact .of_ok () rfl hlist
  | nowhere _ hlist hregion => exact .ok_cons rfl hlist (.of_error rfl hregion)
  | refused _ hlist hregion hmade =>
    exact .ok_cons rfl hlist (.ok_cons rfl hregion (.of_error rfl hmade))
  | launched _ hlist hregion hmade =>
    exact .ok_cons rfl hlist (.ok_cons rfl hregion (.of_ok () rfl hmade))

/-- A shipper is created after a look-up without nodes, and gets its machine after that. -/
theorem ShipperCourse.orderly {image : String} {organization : Organization} {xs : List Exchange}
    {r : Except Fault App} (h : ShipperCourse image organization xs r) : Orderly xs r := by
  cases h with
  | unlisted hlook => exact .of_error rfl hlook
  | found hlook => exact .of_ok _ rfl hlook
  | refused hlook hmade =>
    exact .ok_cons rfl hlook (.of_error (p := makeShipper organization) rfl hmade)
  | created hlook hmade hequip =>
    refine .ok_cons rfl hlook (.ok_cons (p := makeShipper organization) rfl hmade ?_)
    refine hequip.orderly MachineCourse.orderly fun _ hplain => ?_
    cases hplain
    exact .nil _

theorem CredentialCourse.orderly {shipper : App} {xs : List Exchange} {r : Except Fault Unit}
    (h : CredentialCourse shipper xs r) : Orderly xs r :=
  Then.orderly h (fun hissue => hissue.orderly rfl) (fun _ hwrite => hwrite.orderly rfl)

theorem SecretsCourse.orderly {shipper : App} {secrets : List Secret} {xs : List Exchange}
    {r : Except Fault Unit} (h : SecretsCourse shipper secrets xs r) : Orderly xs r := by
  unfold SecretsCourse at h
  split at h
  · cases h
    exact .nil ()
  · exact h.orderly rfl

/-- The restarts, by induction: each follows one that was accepted. -/
theorem RestartCourse.orderly {app : String} {machines : List Machine} {xs : List Exchange}
    {r : Except Fault Unit} (h : RestartCourse app true machines xs r)
    (hids : ∀ m ∈ machines, m.id ≠ "") : Orderly xs r := by
  induction h with
  | nil => exact .nil ()
  | unnamed hid => exact absurd hid (hids _ List.mem_cons_self)
  | refused _ hreply => exact .of_error rfl hreply
  | unready _ hskip => cases hskip
  | skipped _ _ hreply _ ih =>
    exact .ok_cons rfl hreply (ih fun m hm => hids m (List.mem_cons_of_mem _ hm))
  | waited _ hskip => cases hskip

/-- The restarts follow the listing, whose machines all have an id, so that no restart stops before
    it asks. -/
theorem RedeployCourse.orderly {target : App} {xs : List Exchange} {r : Except Fault Nat}
    (h : RedeployCourse target true xs r) : Orderly xs r := by
  cases h with
  | blank => exact .blank
  | unlisted _ hlist => exact .of_error rfl hlist
  | @listed listing machines xs q _ hlist hrestart =>
    have hall : Orderly ((listCall target, listing) :: xs) q :=
      .ok_cons rfl hlist (hrestart.orderly (Machines.id_ne_empty hlist))
    -- counting the machines changes neither the exchanges nor the fault
    cases q with
    | ok value => exact ⟨hall.chain, fun _ _ => hall.accepted value rfl, nofun⟩
    | error fault =>
      refine ⟨hall.chain, nofun, fun _ hr => ?_⟩
      cases hr
      exact hall.blamed fault rfl

theorem DeployCourse.orderly {shipper : App} {secrets : List Secret} {xs : List Exchange}
    {r : Except Fault Nat} (h : DeployCourse shipper secrets xs r) : Orderly xs r :=
  Then.orderly h CredentialCourse.orderly fun _ hrest =>
    hrest.orderly SecretsCourse.orderly fun _ hdeploy => hdeploy.orderly

/-! ## The whole

  The courses put together, and with the grammar what is said of every run. -/

/-- Every automatic provider on offer has a kind of add-on. -/
theorem addOnType?_ne_none {provider : Provider} (h : provider ∈ Provider.catalog)
    (hauto : provider.auto = true) : Provider.addOnType? provider.slug ≠ none := by
  -- the offer is fixed, so it can be looked through
  have hall : ∀ p ∈ Provider.catalog, p.auto = true → Provider.addOnType? p.slug ≠ none := by
    decide +kernel
  exact hall provider h hauto

/-- What is chosen is on offer. -/
theorem mem_of_select {answers : Answers} {offer : List Provider} {provider : Provider}
    (h : answers.select offer = .ok provider) : provider ∈ offer := by
  unfold Answers.select at h
  split at h
  · cases h
  · split at h
    · rename_i chosen hfind
      cases h
      exact List.mem_of_find?_eq_some hfind
    · cases h

/-- What is refused in the answers is nobody's reply, and the look-up of the app before it was
    accepted. -/
theorem ProviderCourse.orderly {target : App} {provider : Provider} {answers : Answers}
    {xs : List Exchange} {r : Except Fault (List Secret)}
    (h : ProviderCourse target provider answers xs r) (hoffer : provider ∈ Provider.catalog) :
    Orderly xs r := by
  unfold ProviderCourse at h
  split at h
  · rename_i hauto
    refine h.orderly (fun haddOn => haddOn.orderly (addOnType?_ne_none hoffer hauto)) ?_
    intro _ _ _ _ _ hplain
    cases hplain
    exact .nil _
  · obtain ⟨⟩ := h
    exact .of_answers _

/-- Everything after the choice of a provider of the catalog. -/
theorem ChosenCourse.orderly {image : String} {target : App} {provider : Provider}
    {answers : Answers} {xs : List Exchange} {r : Except Fault Summary}
    (h : ChosenCourse image target provider answers xs r) (hoffer : provider ∈ Provider.catalog) :
    Orderly xs r := by
  refine Then.orderly h (fun hprovider => hprovider.orderly hoffer) fun _ hshipper => ?_
  refine hshipper.orderly ShipperCourse.orderly fun _ hequip => ?_
  refine hequip.orderly MachineCourse.orderly fun _ hdeployed => ?_
  refine hdeployed.orderly DeployCourse.orderly fun _ hplain => ?_
  cases hplain
  exact .nil _

/-- **A setup is orderly**: nothing follows a refused reply but the creation of an add-on that was
    not found, and whoever stops the setup gave the last reply, or none did. -/
theorem ShipCourse.orderly {image appName : String} {answers : Answers} {xs : List Exchange}
    {r : Except Fault Summary} (h : ShipCourse image appName answers xs r) : Orderly xs r := by
  refine Then.orderly h (fun htarget => htarget.orderly rfl) fun _ hselect => ?_
  refine hselect.orderly (fun hplain => ?_) fun hplain hchosen => hchosen.orderly ?_
  · obtain ⟨⟩ := hplain
    exact .of_answers _
  · cases hselected : answers.select Provider.catalog with
    | error cause =>
      rw [hselected] at hplain
      cases hplain
    | ok provider =>
      rw [hselected] at hplain
      cases hplain
      exact mem_of_select hselected

/-- These machines are what the last listing of the run shows. -/
def LastListed (machines : List Machine) (xs : List Exchange) : Prop :=
  ∃ before app listing after, xs = before ++ (.machines app .list, listing) :: after ∧
    (∀ x ∈ after, x.1.kind ≠ .list) ∧ (Machines.list app).given listing = .ok machines

/-- The restarts at the end of a word are those of the machines in the last listing. -/
theorem Restarted.lastListed {L : Words} {xs : List Exchange} (h : Restarted L xs) :
    ∃ machines, LastListed machines xs ∧ kinds xs ∈ L * restartWords machines.length := by
  obtain ⟨before, app, listing, machines, after, rfl, hbefore, hlist, hafter⟩ := h
  refine ⟨machines, ⟨before, app, listing, after, rfl, fun x hx hkind => ?_, hlist⟩, ?_⟩
  · have hmem : x.1.kind ∈ kinds after := List.mem_map_of_mem hx
    rw [hafter, hkind] at hmem
    cases List.eq_of_mem_replicate hmem
  · rw [kinds_append, kinds_cons, hafter]
    exact Language.append_mem_mul hbefore rfl

/-- What the sequence of a setup is: its calls begin a word of the grammar, and make a whole one
    with as many restarts as the last listing has machines where the setup ends well; no call
    follows a reply that was refused, except the creation of an add-on that was not found; and a
    fault comes from the last reply, or is a local one after replies that were all accepted. -/
structure Sequenced (answers : Answers) (xs : List Exchange) (r : Except Fault Summary) : Prop where
  begun : ∃ n, ∃ w ∈ setupWords (choosesAutomatic answers) n, kinds xs <+: w
  complete : ∀ summary, r = .ok summary →
    ∃ machines, LastListed machines xs ∧
      kinds xs ∈ setupWords (choosesAutomatic answers) machines.length
  chain : xs.IsChain Follows
  blamed : ∀ fault, r = .error fault → Blames xs fault

/-- **A setup is a strict sequence**, whoever replies and whatever the replies are. -/
theorem ship_sequenced {σ : Type} (respond : σ → Call → Reply × σ) (image appName : String)
    (answers : Answers) (s : σ) :
    let o := (ship image appName answers).run respond s
    Sequenced answers o.exchanges o.result := by
  have hcourse := shipCourse_of_run respond image appName answers s
  refine ⟨?_, fun summary hr => ?_, hcourse.orderly.chain, hcourse.orderly.blamed⟩
  · obtain ⟨w, hw, hbegun⟩ := hcourse.spelled.begun
    obtain ⟨u, hu, v, ⟨n, hv⟩, rfl⟩ := Language.mem_mul.mp hw
    exact ⟨n, u ++ v, Language.append_mem_mul hu hv, hbegun⟩
  · rw [hr] at hcourse
    exact hcourse.restarted.lastListed

end LogDrain.Setup
