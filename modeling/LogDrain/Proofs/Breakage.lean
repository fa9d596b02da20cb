/-
  BROKEN RUNS: what is left of a setup when one of its requests is lost.

  Take a setup that ends well, and let one of its replies be lost instead, in any way that is
  provided for: on the client's side, on the server's, or by running out of time, before the status
  or while the body is read.  Two things have to be known about the run that breaks.

    1. Up to the lost reply it is the run that it would have been.  This holds of every procedure:
       two ways through it are the same, or they part at a call that got different replies
       (`Yields.parts`), and the replies of a queue are known by their places (`Served.reply_eq`).
    2. It ends there.  Nothing follows a lost reply, not even where an add-on was looked up, and the
       setup stops with the fault that the operation makes of the loss (`ShipCourse.lost`).

  `ship_broken` is both together, for any reply of any setup that ends well, and with what the
  service answers: the fault is one of the API that was asked, never that something was not found,
  and is told as a failure of the remote side.
-/
import LogDrain.Proofs.Hidden
import LogDrain.Proofs.Origin
import LogDrain.Remote.Request

namespace LogDrain

namespace Procedure

variable {α : Type}

/-! ## Two ways through one procedure

  A procedure is a tree, and two runs of it go the same way as long as they get the same replies.
  `Parted` says where they part: after equal exchanges, at the same call, with different replies. -/

/-- The exchanges are the same up to a call that got different replies. -/
def Parted (xs ys : List Exchange) : Prop :=
  ∃ before call reply other after rest, reply ≠ other ∧
    xs = before ++ (call, reply) :: after ∧ ys = before ++ (call, other) :: rest

theorem Parted.cons {xs ys : List Exchange} (x : Exchange) (h : Parted xs ys) :
    Parted (x :: xs) (x :: ys) := by
  obtain ⟨before, call, reply, other, after, rest, hne, rfl, rfl⟩ := h
  exact ⟨x :: before, call, reply, other, after, rest, hne, rfl, rfl⟩

/-- **Two ways through one procedure are the same, or they part at a call that got different
    replies.** -/
theorem Yields.parts {p : Procedure α} {xs ys : List Exchange} {r q : Except Fault α}
    (hx : Yields p xs r) (hy : Yields p ys q) : (xs = ys ∧ r = q) ∨ Parted xs ys := by
  induction hx generalizing ys with
  | done value =>
    cases hy
    exact Or.inl ⟨rfl, rfl⟩
  | stop fault =>
    cases hy
    exact Or.inl ⟨rfl, rfl⟩
  | note _ ih =>
    cases hy with
    | note hy => exact ih hy
  | @ask call next reply xs r _ ih =>
    cases hy with
    | @ask _ _ other ys _ hy =>
      -- the same reply leads on to the same procedure, and another one is the parting
      by_cases hreply : reply = other
      · subst hreply
        rcases ih hy with ⟨rfl, hr⟩ | hpart
        · exact Or.inl ⟨rfl, hr⟩
        · exact Or.inr (hpart.cons _)
      · exact Or.inr ⟨[], call, reply, other, xs, ys, hreply, rfl, rfl⟩

/-! ## The replies of a queue by their places

  A queue is used from the front, one reply for each call.  So the reply at a place is that of the
  call at the same place, and a change at one place leaves all calls before it as they were. -/

/-- The exchange at a place, with what comes before it and after it. -/
theorem exists_split {xs : List Exchange} {n : Nat} (h : n < xs.length) :
    ∃ before call reply after, xs = before ++ (call, reply) :: after ∧ before.length = n := by
  refine ⟨xs.take n, xs[n].1, xs[n].2, xs.drop (n + 1), ?_, List.length_take_of_le (Nat.le_of_lt h)⟩
  have hdrop : xs.drop n = xs[n] :: xs.drop (n + 1) := List.drop_eq_getElem_cons h
  rw [Prod.mk.eta, ← hdrop, List.take_append_drop]

theorem nextReply_eq (replies : List Reply) (call : Call) :
    nextReply replies call = (replies[0]?.getD (.lost .client), replies.drop 1) := by
  cases replies <;> rfl

/-- The reply at a place of a queue; past its end a request is lost. -/
def replyAt (replies : List Reply) (place : Nat) : Reply := replies[place]?.getD (.lost .client)

theorem replyAt_drop (replies : List Reply) (place : Nat) :
    replyAt (replies.drop 1) place = replyAt replies (place + 1) := by
  rw [replyAt, replyAt, List.getElem?_drop, Nat.add_comm]

/-- The first exchange takes the first reply, and the others the rest. -/
theorem served_cons {replies rest : List Reply} {call : Call} {reply : Reply} {xs : List Exchange}
    (h : Served nextReply replies ((call, reply) :: xs) rest) :
    reply = replyAt replies 0 ∧ Served nextReply (replies.drop 1) xs rest := by
  cases h with
  | cons h =>
    rw [nextReply_eq] at h ⊢
    exact ⟨rfl, h⟩

/-- The reply after so many exchanges is the one at that place; past the end the request is lost. -/
theorem Served.reply_eq {replies rest : List Reply} {before after : List Exchange} {call : Call}
    {reply : Reply} (h : Served nextReply replies (before ++ (call, reply) :: after) rest) :
    reply = replies[before.length]?.getD (.lost .client) := by
  induction before generalizing replies with
  | nil =>
    cases h
    rw [nextReply_eq]
    rfl
  | cons y before ih =>
    cases h with
    | cons h =>
      have hreply := ih h
      rw [nextReply_eq] at hreply
      rw [hreply, List.getElem?_drop, List.length_cons, Nat.add_comm]

/-- Each exchange takes one reply from the queue. -/
theorem Served.rest_eq {replies rest : List Reply} {xs : List Exchange}
    (h : Served nextReply replies xs rest) : rest = replies.drop xs.length := by
  induction h with
  | nil => rfl
  | @cons replies rest call xs _ ih =>
    rw [ih, nextReply_eq, List.drop_drop, List.length_cons, Nat.add_comm]

/-- **Where one reply of a queue is another one**, the run is the same up to it, and there the same
    call gets the other reply. -/
theorem exists_parting (p : Procedure α) {replies : List Reply} {place : Nat} (other : Reply)
    (hplace : place < (p.run nextReply replies).exchanges.length)
    (hreplied : place < replies.length) :
    ∃ before call reply after rest,
      (p.run nextReply replies).exchanges = before ++ (call, reply) :: after ∧
      (p.run nextReply (replies.set place other)).exchanges = before ++ (call, other) :: rest ∧
      before.length = place := by
  have hserved := served_run nextReply p replies
  have hset := served_run nextReply p (replies.set place other)
  rcases (yields_run nextReply p replies).parts
      (yields_run nextReply p (replies.set place other)) with
    ⟨hsame, -⟩ | ⟨before, call, reply, reply', after, rest, hne, hxs, hys⟩
  · obtain ⟨before, call, reply, after, hxs, hlength⟩ := exists_split hplace
    rw [← hsame, hxs] at hset
    have hreply := hset.reply_eq
    rw [hlength, List.getElem?_set_self hreplied] at hreply
    obtain rfl : reply = other := hreply
    exact ⟨before, call, reply, after, after, hxs, hsame.symm.trans hxs, hlength⟩
  · rw [hxs] at hserved
    rw [hys] at hset
    have hreply := hserved.reply_eq
    have hreply' := hset.reply_eq
    -- the queues differ at one place only, so this is where the runs part
    have hat : before.length = place := by
      by_contra hnot
      rw [List.getElem?_set_ne (Ne.symm hnot), ← hreply] at hreply'
      exact hne hreply'.symm
    rw [hat, List.getElem?_set_self hreplied] at hreply'
    obtain rfl : reply' = other := hreply'
    exact ⟨before, call, reply, after, rest, hxs, hys, hat⟩

end Procedure

/-! ## Lost replies

  A loss is refused by every operation, with a fault that depends on the call and the loss alone.
  After a refusal a setup makes no call, with one exception: an add-on that was not found is
  created. But a loss never says "not found", so there is no exception here. -/

/-- The fault with which the operation of the call stops when its request is lost. -/
def Call.lossFault : Call → Loss → Fault
  | _, .other => .connection
  | .query _, .timeout => .api .timedOut
  | .query _, .client | .query _, .serverTimeout => .api .unreachable
  | .machines app _, _ => .machines app .unreachable

/-- The class of the faults of the API that is called. -/
def Call.faultKind : Call → FaultKind
  | .query _ => .api
  | .machines .. => .machines

theorem Call.kind_lossFault (call : Call) {loss : Loss} (h : loss ≠ .other) :
    (call.lossFault loss).kind = call.faultKind := by
  cases call <;> cases loss <;> first | rfl | exact absurd rfl h

namespace Exchange

open Procedure

variable {α : Type} {loss : Loss}

theorem given_query_lost (q : Query) (f : Fields → Procedure α) :
    (Platform.query q >>= f).given (.lost loss) = .error ((Call.query q).lossFault loss) := by
  rw [given_then, Platform.given_query]
  cases loss <;> rfl

theorem given_ask_lost (app : String) (call : MachineCall) (f : List UInt8 → Procedure α) :
    (Machines.ask app call >>= f).given (.lost loss) =
      .error ((Call.machines app call).lossFault loss) := by
  rw [given_then, Machines.given_ask]
  cases loss <;> rfl

/-- **What a call makes of a lost reply** is the fault of the loss. -/
theorem refusal?_lost {call : Call} (h : call.IsAskable) :
    refusal? (call, .lost loss) = some (call.lossFault loss) := by
  cases call with
  | query q =>
    cases q with
    | setSecrets appId secrets =>
      refine refusal?_of_error (p := Platform.setSecrets appId secrets) rfl ?_
      unfold Platform.setSecrets
      rw [if_neg h]
      exact given_query_lost _ _
    | _ => exact refusal?_of_error rfl (given_query_lost _ _)
  | machines app call =>
    cases call with
    | restart id =>
      refine refusal?_of_error (p := Machines.restart app id) rfl ?_
      unfold Machines.restart
      rw [if_neg h]
      exact given_ask_lost _ _ _
    | _ => exact refusal?_of_error rfl (given_ask_lost _ _ _)

end Exchange

namespace Setup

open Procedure

variable {image appName : String} {answers : Answers}

/-- A lost reply gives no shipper. -/
theorem not_givesBlankShipper_lost {call : Call} {loss : Loss} :
    ¬ GivesBlankShipper (call, .lost loss) := by
  rintro (⟨⟨_, _, _, ⟨_, ⟨_, hreply, _⟩, _⟩, _⟩, _⟩ | ⟨⟨_, ⟨_, ⟨_, hreply, _⟩, _⟩, _⟩, _⟩) <;>
    cases hreply

/-- **A setup ends with the first reply that is lost**, and stops with the fault of the loss. -/
theorem ShipCourse.lost {before after : List Exchange} {call : Call} {loss : Loss}
    {r : Except Fault Summary}
    (h : ShipCourse image appName answers (before ++ (call, .lost loss) :: after) r) :
    after = [] ∧ r = .error (call.lossFault loss) := by
  -- nothing follows a loss, so it is the last exchange, and the ending is about it
  have hafter := h.orderly.eq_nil fun y => Unanswered.not_follows .lost
  subst hafter
  refine ⟨rfl, ?_⟩
  have hx : ∀ x ∈ (before ++ [(call, Reply.lost loss)]).getLast?, x = (call, .lost loss) := by
    intro x hx
    rw [List.getLast?_concat] at hx
    exact (Option.some.inj hx).symm
  cases h.ending with
  | refused hlast hask hrefusal _ =>
    obtain rfl := hx _ hlast
    rw [Exchange.refusal?_lost hask] at hrefusal
    cases r with
    | ok summary => cases hrefusal
    | error fault =>
      cases hrefusal
      rfl
  | accepted hlast _ haccepted _ _ =>
    obtain rfl := hx _ hlast
    exact absurd haccepted (Unanswered.not_isAccepted .lost)
  | blank hlast hblank _ =>
    obtain rfl := hx _ hlast
    exact absurd hblank not_givesBlankShipper_lost

/-- The run of a setup ends with the first reply that is lost. -/
theorem ship_lost {σ : Type} (respond : σ → Call → Reply × σ) (image appName : String)
    (answers : Answers) (s : σ) {before after : List Exchange} {call : Call} {loss : Loss}
    (h : ((ship image appName answers).run respond s).exchanges =
      before ++ (call, .lost loss) :: after) :
    after = [] ∧
      ((ship image appName answers).run respond s).result = .error (call.lossFault loss) := by
  have hcourse := shipCourse_of_run respond image appName answers s
  rw [h] at hcourse
  exact hcourse.lost

/-- A setup that ends well has a reply for every call. -/
theorem calls_le_of_ok {replies : List Reply} {summary : Summary}
    (h : ((ship image appName answers).run nextReply replies).result = .ok summary) :
    ((ship image appName answers).run nextReply replies).exchanges.length ≤ replies.length := by
  by_contra hmore
  have hlt := Nat.lt_of_not_le hmore
  -- the first call without a reply counts as lost
  obtain ⟨before, call, reply, after, hxs, hlength⟩ := exists_split hlt
  have hserved := served_run nextReply (ship image appName answers) replies
  rw [hxs] at hserved
  have hreply := hserved.reply_eq
  rw [hlength, List.getElem?_eq_none (Nat.le_refl _)] at hreply
  subst hreply
  have hstop := (ship_lost nextReply image appName answers replies hxs).2
  rw [h] at hstop
  cases hstop

/-- What is left of a run when the reply at this place is lost: the calls up to there, with none of
    the later replies used, and a fault of the API that was called. -/
structure Broken (run broken : Outcome (List Reply) Summary) (replies : List Reply) (place : Nat)
    (loss : Loss) (call : Call) : Prop where
  asked : run.calls[place]? = some call
  replied : place < replies.length
  calls : broken.calls = run.calls.take (place + 1)
  requests : ∀ settings, broken.calls.map (Call.request settings) =
    (run.calls.map (Call.request settings)).take (place + 1)
  unused : broken.state = replies.drop (place + 1)
  stopped : broken.result = .error (call.lossFault loss)
  kind : (call.lossFault loss).kind = call.faultKind

/-- **The run breaks at the lost reply**, and was the same up to there. -/
theorem broken_of_ok {replies : List Reply} {summary : Summary}
    (h : ((ship image appName answers).run nextReply replies).result = .ok summary) {place : Nat}
    (hplace : place < ((ship image appName answers).run nextReply replies).calls.length)
    {loss : Loss} (hloss : loss ≠ .other) :
    ∃ call, Broken ((ship image appName answers).run nextReply replies)
      ((ship image appName answers).run nextReply (replies.set place (.lost loss))) replies place
        loss
      call := by
  have hle := calls_le_of_ok h
  rw [Outcome.calls_eq, List.length_map] at hplace
  have hreplied : place < replies.length := Nat.lt_of_lt_of_le hplace hle
  -- up to the lost reply the two runs are one; there the second stops, since a loss is refused
  obtain ⟨before, call, reply, after, rest, hxs, hys, hlength⟩ :=
    exists_parting (ship image appName answers) (.lost loss) hplace hreplied
  obtain ⟨rfl, hstop⟩ := ship_lost nextReply image appName answers _ hys
  have hserved := served_run nextReply (ship image appName answers) (replies.set place (.lost loss))
  have hcalls : ((ship image appName answers).run nextReply replies).calls =
      before.map Prod.fst ++ call :: after.map Prod.fst := by
    rw [Outcome.calls_eq, hxs, List.map_append]
    rfl
  have htake : ((ship image appName answers).run nextReply (replies.set place (.lost loss))).calls =
      ((ship image appName answers).run nextReply replies).calls.take (place + 1) := by
    rw [hcalls, Outcome.calls_eq, hys, List.map_append, ← hlength,
      ← List.length_map (f := Prod.fst), List.take_length_add_append]
    rfl
  refine ⟨call, ?_⟩
  exact
    { asked := by
        rw [hcalls, ← hlength]
        simp
      replied := hreplied
      calls := htake
      requests := fun settings => by rw [htake, List.map_take]
      unused := by
        rw [hserved.rest_eq, hys, List.length_append, hlength]
        exact List.drop_set_of_lt (Nat.lt_succ_self place)
      stopped := hstop
      kind := Call.kind_lossFault call hloss }

/-- A fault of the API that was called is told as a failure of the remote side. -/
theorem refuse_of_faultKind {fault : Fault} {call : Call} (h : fault.kind = call.faultKind) :
    Web.refuse fault.report = .done (.detail 502 fault.message) := by
  have hkind : fault.report.kind = call.faultKind := h
  unfold Web.refuse
  rw [hkind]
  cases call <;> rfl

/-- What the service answers when its setup stops with such a fault. -/
theorem answer_of_stop {env : Environment} {request : Web.Request} {r : Web.ShipRequest}
    (hasks : Web.Asks env request r) {replies : List Reply} {fault : Fault} {call : Call}
    (hkind : fault.kind = call.faultKind)
    (h : ((ship (shipperImage env) r.appName (.of r.provider r.secrets)).run nextReply
      replies).result = .error fault) :
    let run := (ship (shipperImage env) r.appName (.of r.provider r.secrets)).run nextReply replies
    let told := (Web.answer env .ready request).run nextReply replies
    told.result = .ok (.detail 502 fault.message) ∧ told.calls = run.calls ∧ told.state =
      run.state := by
  intro run told
  have hconclude : Web.conclude run.result = .done (.detail 502 fault.message) := by
    rw [h]
    exact refuse_of_faultKind hkind
  have htold : told = ⟨.ok (.detail 502 fault.message), run.trace, run.state⟩ :=
    hasks.run_of_conclude nextReply rfl hconclude
  rw [htold]
  exact ⟨rfl, rfl, rfl⟩

/-- **A setup that ends well breaks at any reply that is lost instead**: it sends what it would have
    sent up to there and nothing more, and stops with a fault of the API that was called, which the
    service tells as a failure of the remote side. -/
theorem ship_broken (env : Environment) (appName : String) (answers : Answers)
    {replies : List Reply} {summary : Summary}
    (h : ((ship (shipperImage env) appName answers).run nextReply replies).result = .ok summary)
    {place : Nat}
    (hplace : place < ((ship (shipperImage env) appName answers).run nextReply
      replies).calls.length)
    {loss : Loss} (hloss : loss ≠ .other) :
    let whole := (ship (shipperImage env) appName answers).run nextReply replies
    let broken :=
      (ship (shipperImage env) appName answers).run nextReply (replies.set place (.lost loss))
    ∃ call, Broken whole broken replies place loss call ∧
      ∀ request r, Web.Asks env request r → r.appName = appName →
        Answers.of r.provider r.secrets = answers →
        let told := (Web.answer env .ready request).run nextReply (replies.set place (.lost loss))
        told.result = .ok (.detail 502 (call.lossFault loss).message) ∧
          told.calls = broken.calls ∧ told.state = broken.state := by
  intro whole broken
  obtain ⟨call, hbroken⟩ := broken_of_ok h hplace hloss
  refine ⟨call, hbroken, ?_⟩
  rintro request r hasks rfl rfl
  exact answer_of_stop hasks hbroken.kind hbroken.stopped

open Foreign in
/-- An add-on look-up that runs out of time creates nothing. -/
theorem broken_two_organizations :
    let whole := (ship (shipperImage Textual.env) "acme-web" (.of (some "logtail") [])).run
      nextReply replies
    let broken := (ship (shipperImage Textual.env) "acme-web" (.of (some "logtail") [])).run
      nextReply (replies.set 1 (.lost .timeout))
    whole.result = .ok Foreign.summary ∧ 1 < whole.calls.length ∧ (Loss.timeout ≠ .other) ∧
      Web.Asks Textual.env Textual.request ⟨"acme-web", some "logtail", []⟩ ∧
      ∃ call, Broken whole broken replies 1 .timeout call ∧
        ((Web.answer Textual.env .ready Textual.request).run nextReply
          (replies.set 1 (.lost .timeout))).result =
            .ok (.detail 502 (call.lossFault .timeout).message) := by
  have h : ((ship (shipperImage Textual.env) "acme-web" (.of (some "logtail") [])).run
      nextReply replies).result = .ok Foreign.summary := by decide +kernel
  have hplace : 1 < ((ship (shipperImage Textual.env) "acme-web" (.of (some "logtail") [])).run
      nextReply replies).calls.length := by decide +kernel
  have hloss : Loss.timeout ≠ .other := nofun
  obtain ⟨call, hbroken, htold⟩ :=
    ship_broken Textual.env "acme-web" (.of (some "logtail") []) h hplace hloss
  exact ⟨h, hplace, hloss, Textual.asks, call, hbroken,
    (htold Textual.request _ Textual.asks rfl rfl).1⟩

end Setup

end LogDrain
