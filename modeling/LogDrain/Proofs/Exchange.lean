/-
  EXCHANGES: what a procedure asks and is answered, whoever answers.

  A run of `Procedure.run` is driven by a responder, and its trace mixes calls with noted lines.
  Most of what is to be said about a procedure concerns neither: it is a statement about the calls,
  the replies and the result.  Three definitions carry it.

    * `Outcome.exchanges`  the calls of a run with their replies, in order;
    * `Yields p xs r`      along the exchanges `xs` the procedure `p` ends with `r`.  It is a
                           relation on the tree alone, so a law of `Yields` is a law of every run
                           (`yields_run`), and it comes apart at `bind` (`Yields.of_bind`);
    * `Served respond s xs t`  the replies in `xs` are the responder's own, which goes from the
                           state `s` to `t` (`served_run`).

  An operation of a client asks once and goes on without asking (`AsksOnce`).  What it makes of a
  reply is then a function of that reply: `Procedure.given`, which answers every call of a procedure
  with one and the same reply.  `AsksOnce.of_yields` is the only fact about an operation that later
  modules need.
-/
import LogDrain.Procedure

namespace LogDrain

/-- A call and the reply to it. -/
abbrev Exchange := Call × Reply

namespace Procedure

variable {α β σ : Type}

/-! ## The exchanges of a run

  The trace of a run has the lines that were noted as well; the exchanges are what is left without
  them. -/

/-- The exchange of an event, if it is one. -/
def Event.exchange? : Event → Option Exchange
  | .asked call reply => some (call, reply)
  | .noted _ => none

/-- The exchanges of a run, in order. -/
def Outcome.exchanges (o : Outcome σ α) : List Exchange := o.trace.filterMap Event.exchange?

/-- The calls of a run are those of its exchanges. -/
theorem Outcome.calls_eq (o : Outcome σ α) : o.calls = o.exchanges.map Prod.fst := by
  have key : ∀ e : Event, e.call? = e.exchange?.map Prod.fst := by
    intro e
    cases e <;> rfl
  rw [calls, exchanges, List.map_filterMap]
  exact congrArg (o.trace.filterMap ·) (funext key)

/-! ## What a procedure can go through

  A relation on the tree, by its constructors: a call takes any reply.  Two facts make it useful:
  every run is one of these ways, and a way through a bind comes apart at the bind. -/

/-- Along these exchanges the procedure ends with this result; what it notes is passed over. -/
inductive Yields : Procedure α → List Exchange → Except Fault α → Prop
  | done (value : α) : Yields (.done value) [] (.ok value)
  | stop (fault : Fault) : Yields (.stop fault) [] (.error fault)
  | note {line next xs r} : Yields next xs r → Yields (.note line next) xs r
  | ask {call next reply xs r} :
      Yields (next reply) xs r → Yields (.ask call next) ((call, reply) :: xs) r

/-- **Every run is gone through by its procedure.** -/
theorem yields_run (respond : σ → Call → Reply × σ) (p : Procedure α) (s : σ) :
    Yields p (p.run respond s).exchanges (p.run respond s).result := by
  induction p generalizing s with
  | done value => exact .done value
  | stop fault => exact .stop fault
  | note line next ih => exact .note (ih s)
  | ask call next ih => exact .ask (ih (respond s call).1 (respond s call).2)

/-- **A procedure made of two goes through the first and then, from its value, through the second.**
    A stop of the first is a stop of the whole. -/
theorem Yields.of_bind {f : α → Procedure β} {p : Procedure α} {xs : List Exchange}
    {r : Except Fault β} (h : Yields (p.bind f) xs r) :
    (∃ fault, Yields p xs (.error fault) ∧ r = .error fault) ∨
    ∃ value ys zs, xs = ys ++ zs ∧ Yields p ys (.ok value) ∧ Yields (f value) zs r := by
  -- by induction on the first procedure: lines and calls are put in front of both parts
  induction p generalizing xs with
  | done value => exact Or.inr ⟨value, [], xs, rfl, .done value, h⟩
  | stop fault =>
    cases h
    exact Or.inl ⟨fault, .stop fault, rfl⟩
  | note line next ih =>
    cases h with
    | note h =>
      rcases ih h with ⟨fault, hp, hr⟩ | ⟨value, ys, zs, hxs, hp, hf⟩
      · exact Or.inl ⟨fault, .note hp, hr⟩
      · exact Or.inr ⟨value, ys, zs, hxs, .note hp, hf⟩
  | ask call next ih =>
    cases h with
    | @ask _ _ reply xs _ h =>
      rcases ih reply h with ⟨fault, hp, hr⟩ | ⟨value, ys, zs, hxs, hp, hf⟩
      · exact Or.inl ⟨fault, .ask hp, hr⟩
      · exact Or.inr ⟨value, (call, reply) :: ys, zs, by rw [hxs]; rfl, .ask hp, hf⟩

/-- An attempt goes through what its procedure goes through, and makes a value of the result. -/
theorem Yields.of_attempt {p : Procedure α} {xs : List Exchange} {r : Except Fault (Except Fault α)}
    (h : Yields p.attempt xs r) : ∃ q, Yields p xs q ∧ r = .ok q := by
  induction p generalizing xs with
  | done value =>
    cases h
    exact ⟨_, .done value, rfl⟩
  | stop fault =>
    cases h
    exact ⟨_, .stop fault, rfl⟩
  | note line next ih =>
    cases h with
    | note h =>
      obtain ⟨q, hp, hr⟩ := ih h
      exact ⟨q, .note hp, hr⟩
  | ask call next ih =>
    cases h with
    | @ask _ _ reply _ _ h =>
      obtain ⟨q, hp, hr⟩ := ih reply h
      exact ⟨q, .ask hp, hr⟩

/-! ## One reply to everything

  If a procedure asks once, one reply decides what it comes to.  Giving the same reply to every
  call makes a function of it, which `simp` can compute with. -/

/-- What comes of the procedure when every call gets this reply. -/
def given (reply : Reply) : Procedure α → Except Fault α
  | .done value => .ok value
  | .stop fault => .error fault
  | .note _ next => next.given reply
  | .ask _ next => (next reply).given reply

@[simp] theorem given_done (reply : Reply) (value : α) :
    (Procedure.done value).given reply = .ok value := rfl

@[simp] theorem given_pure (reply : Reply) (value : α) :
    (pure value : Procedure α).given reply = .ok value := rfl

@[simp] theorem given_stop (reply : Reply) (fault : Fault) :
    (Procedure.stop fault : Procedure α).given reply = .error fault := rfl

@[simp] theorem given_say (reply : Reply) (level : LogLevel) (message : String) :
    (say level message).given reply = .ok () := rfl

@[simp] theorem given_ofExcept (reply : Reply) (e : Except Fault α) :
    (ofExcept e).given reply = e := by
  cases e <;> rfl

@[simp] theorem given_ofShape (reply : Reply) (e : Except ShapeFault α) :
    (ofShape e).given reply = e.mapError .shape := given_ofExcept reply _

/-- What comes of two procedures is what comes of the second from the value of the first. -/
theorem given_bind (reply : Reply) (f : α → Procedure β) :
    ∀ p : Procedure α,
      (p.bind f).given reply = (p.given reply).bind fun value => (f value).given reply
  | .done _ => rfl
  | .stop _ => rfl
  | .note _ next => given_bind reply f next
  | .ask _ next => given_bind reply f (next reply)

/-- **What two steps make of one reply** is what the second makes of it, with the value of the
    first.  Both see the same reply, which is right for an operation, since it asks once. -/
@[simp] theorem given_then (reply : Reply) (f : α → Procedure β) (p : Procedure α) :
    (p >>= f).given reply = p.given reply >>= fun value => (f value).given reply :=
  given_bind reply f p

/-! ## Procedures that do not ask, and those that ask once

  To be silent is kept by bind, and one call followed by silence asks once.  Every operation is of
  this kind. -/

/-- The procedure asks nothing. -/
def Silent : Procedure α → Prop
  | .done _ | .stop _ => True
  | .note _ next => next.Silent
  | .ask .. => False

theorem silent_ofExcept (e : Except Fault α) : (ofExcept e).Silent := by
  cases e <;> exact trivial

theorem silent_ofShape (e : Except ShapeFault α) : (ofShape e).Silent := silent_ofExcept _

/-- Procedures that do not ask make one that does not. -/
theorem Silent.bind {f : α → Procedure β} (hf : ∀ value, (f value).Silent) :
    ∀ {p : Procedure α}, p.Silent → (p.bind f).Silent
  | .done value, _ => hf value
  | .stop _, _ => trivial
  | .note _ next, h => Silent.bind hf (p := next) h

/-- A procedure that does not ask exchanges nothing, and no reply changes what comes of it. -/
theorem Silent.of_yields {xs : List Exchange} {r : Except Fault α} :
    ∀ {p : Procedure α}, p.Silent → Yields p xs r → xs = [] ∧ ∀ reply, r = p.given reply
  | .done _, _, h => by
    cases h
    exact ⟨rfl, fun _ => rfl⟩
  | .stop _, _, h => by
    cases h
    exact ⟨rfl, fun _ => rfl⟩
  | .note _ next, hs, h => by
    cases h with
    | note h => exact Silent.of_yields (p := next) hs h

/-- The procedure asks this call at once, and nothing after it. -/
def AsksOnce (call : Call) (p : Procedure α) : Prop :=
  ∃ next, p = .ask call next ∧ ∀ reply, (next reply).Silent

/-- What follows without asking does not change that a procedure asks once. -/
theorem AsksOnce.bind {call : Call} {p : Procedure α} {f : α → Procedure β} (h : AsksOnce call p)
    (hf : ∀ value, (f value).Silent) : AsksOnce call (p.bind f) := by
  obtain ⟨next, rfl, hnext⟩ := h
  exact ⟨fun reply => (next reply).bind f, rfl, fun reply => (hnext reply).bind hf⟩

/-- **A procedure that asks once** exchanges its call for one reply, and what comes of it is what it
    makes of that reply. -/
theorem AsksOnce.of_yields {call : Call} {p : Procedure α} {xs : List Exchange} {r : Except Fault α}
    (h : AsksOnce call p) (y : Yields p xs r) :
    ∃ reply, xs = [(call, reply)] ∧ r = p.given reply := by
  obtain ⟨next, rfl, hnext⟩ := h
  cases y with
  | @ask _ _ reply xs _ y =>
    obtain ⟨rfl, hr⟩ := (hnext reply).of_yields y
    exact ⟨reply, rfl, hr reply⟩

/-! ## Who replied

  The replies of a run are those of its responder; with `Yields` this makes a run, and without it
  a statement about all responders. -/

/-- The replies are those of the responder, which ends in the second state. -/
inductive Served (respond : σ → Call → Reply × σ) : σ → List Exchange → σ → Prop
  | nil (s : σ) : Served respond s [] s
  | cons {s t : σ} {call : Call} {xs : List Exchange} :
      Served respond (respond s call).2 xs t →
        Served respond s ((call, (respond s call).1) :: xs) t

/-- **The replies of a run are those of its responder.** -/
theorem served_run (respond : σ → Call → Reply × σ) (p : Procedure α) (s : σ) :
    Served respond s (p.run respond s).exchanges (p.run respond s).state := by
  induction p generalizing s with
  | done value => exact .nil s
  | stop fault => exact .nil s
  | note line next ih => exact ih s
  | ask call next ih => exact .cons (ih (respond s call).1 (respond s call).2)

/-- A procedure that asks once makes its call, whoever replies. -/
theorem AsksOnce.calls_run {call : Call} {p : Procedure α} (h : AsksOnce call p)
    (respond : σ → Call → Reply × σ) (s : σ) : (p.run respond s).calls = [call] := by
  obtain ⟨reply, hxs, -⟩ := h.of_yields (yields_run respond p s)
  rw [Outcome.calls_eq, hxs]
  rfl

/-- **A procedure that asks once** ends with what it makes of the responder's reply. -/
theorem AsksOnce.result_run {call : Call} {p : Procedure α} (h : AsksOnce call p)
    (respond : σ → Call → Reply × σ) (s : σ) :
    (p.run respond s).result = p.given (respond s call).1 := by
  obtain ⟨reply, hxs, hresult⟩ := h.of_yields (yields_run respond p s)
  have hserved := served_run respond p s
  rw [hxs] at hserved
  cases hserved
  exact hresult

end Procedure

end LogDrain
