/-
  PROCEDURES: what is done step by step, as a tree.

  A procedure ends with a value, stops with a fault, notes a line and goes on, or asks a call and
  goes on with the reply.  It is data: nothing is sent by building it.  `bind` puts one procedure
  after another, `attempt` turns a stop into a value, and `run` follows the tree along the replies
  that a responder gives, keeping its state from one call to the next.

  A responder is any function from its state and a call to a reply and the next state.  A queue of
  replies is one (`nextReply`): when it is used up, the request is lost on the client's side.

  What a run leaves is its result, the trace of what happened in order, and the responder's state.
-/
import LogDrain.Fault
import LogDrain.Log

namespace LogDrain

/-- A procedure that ends with an `α`. -/
inductive Procedure (α : Type) where
  | done (value : α)
  | stop (fault : Fault)
  | note (line : LogLine) (next : Procedure α)
  | ask (call : Call) (next : Reply → Procedure α)

namespace Procedure

variable {α β σ : Type}

/-! ## Putting procedures together -/

/-- The first procedure, then the one that its value gives. -/
def bind : Procedure α → (α → Procedure β) → Procedure β
  | .done value, f => f value
  | .stop fault, _ => .stop fault
  | .note line next, f => .note line (next.bind f)
  | .ask call next, f => .ask call fun reply => (next reply).bind f

instance : Monad Procedure where
  pure := .done
  bind := bind

/-- The procedure with a stop made a value. -/
def attempt : Procedure α → Procedure (Except Fault α)
  | .done value => .done (.ok value)
  | .stop fault => .done (.error fault)
  | .note line next => .note line next.attempt
  | .ask call next => .ask call fun reply => (next reply).attempt

/-- Note one line. -/
def say (level : LogLevel) (message : String) : Procedure Unit := .note ⟨level, message⟩ (.done ())

/-- End with what is there, or stop with the fault. -/
def ofExcept : Except Fault α → Procedure α
  | .ok value => .done value
  | .error fault => .stop fault

/-- End with what was read, or stop with the wrong shape. -/
def ofShape (reading : Except ShapeFault α) : Procedure α := ofExcept (reading.mapError .shape)

/-! ## Running -/

/-- One thing that happened: a line was noted, or a call was answered. -/
inductive Event where
  | noted (line : LogLine)
  | asked (call : Call) (reply : Reply)

/-- The call of an event, if it is one. -/
def Event.call? : Event → Option Call
  | .asked call _ => some call
  | .noted _ => none

/-- The line of an event, if it is one. -/
def Event.line? : Event → Option LogLine
  | .noted line => some line
  | .asked .. => none

/-- What a run leaves. -/
structure Outcome (σ α : Type) where
  result : Except Fault α
  trace : List Event
  state : σ

namespace Outcome

/-- The calls that were made, in order. -/
def calls (o : Outcome σ α) : List Call := o.trace.filterMap Event.call?

/-- The lines that were noted, in order. -/
def lines (o : Outcome σ α) : List LogLine := o.trace.filterMap Event.line?

/-- The outcome with one more event at its start. -/
def after (o : Outcome σ α) (event : Event) : Outcome σ α := { o with trace := event :: o.trace }

/-- The outcome of going on from a value; a fault is where it ends. -/
def andThen (o : Outcome σ α) (next : α → σ → Outcome σ β) : Outcome σ β :=
  match o.result with
  | .ok value =>
    let rest := next value o.state
    { rest with trace := o.trace ++ rest.trace }
  | .error fault => ⟨.error fault, o.trace, o.state⟩

/-- An event at the start stays at the start. -/
theorem andThen_after (o : Outcome σ α) (event : Event) (next : α → σ → Outcome σ β) :
    (o.after event).andThen next = (o.andThen next).after event := by
  obtain ⟨result, trace, state⟩ := o
  cases result <;> rfl

end Outcome

/-- Follow the procedure along the replies of a responder. -/
def run (respond : σ → Call → Reply × σ) : Procedure α → σ → Outcome σ α
  | .done value, state => ⟨.ok value, [], state⟩
  | .stop fault, state => ⟨.error fault, [], state⟩
  | .note line next, state => (next.run respond state).after (.noted line)
  | .ask call next, state =>
    let (reply, state) := respond state call
    ((next reply).run respond state).after (.asked call reply)

/-- Follow procedures one after the other; a stop of one does not keep the next from starting. -/
def runEach (respond : σ → Call → Reply × σ) :
    List (Procedure α) → σ → List (Outcome σ α) × σ
  | [], state => ([], state)
  | p :: ps, state =>
    let outcome := p.run respond state
    let (outcomes, state) := runEach respond ps outcome.state
    (outcome :: outcomes, state)

/-- The next reply of a queue. -/
def nextReply : List Reply → Call → Reply × List Reply
  | [], _ => (.lost .client, [])
  | reply :: replies, _ => (reply, replies)

/-! ## Laws of putting together -/

/-- A value that a procedure starts with is handed on. -/
theorem done_bind (value : α) (f : α → Procedure β) : (Procedure.done value).bind f = f value := rfl

/-- Ending with the value changes nothing. -/
theorem bind_done : ∀ p : Procedure α, p.bind .done = p
  | .done _ => rfl
  | .stop _ => rfl
  | .note line next => congrArg (Procedure.note line) (bind_done next)
  | .ask call next => congrArg (Procedure.ask call) (funext fun reply => bind_done (next reply))

/-- How three procedures are put together makes no difference. -/
theorem bind_assoc {γ : Type} (f : α → Procedure β) (g : β → Procedure γ) :
    ∀ p : Procedure α, (p.bind f).bind g = p.bind fun value => (f value).bind g
  | .done _ => rfl
  | .stop _ => rfl
  | .note line next => congrArg (Procedure.note line) (bind_assoc f g next)
  | .ask call next =>
    congrArg (Procedure.ask call) (funext fun reply => bind_assoc f g (next reply))

/-! ## Laws of running -/

/-- A procedure made of two is run by running the first and going on from its value. -/
theorem run_bind (respond : σ → Call → Reply × σ) (f : α → Procedure β) :
    ∀ (p : Procedure α) (state : σ),
      (p.bind f).run respond state = (p.run respond state).andThen fun value =>
        (f value).run respond
  | .done _, _ => rfl
  | .stop _, _ => rfl
  | .note line next, state => by
    show ((next.bind f).run respond state).after (.noted line) = _
    rw [run_bind respond f next state, ← Outcome.andThen_after]
    rfl
  | .ask call next, state => by
    have ih := run_bind respond f (next (respond state call).1) (respond state call).2
    show (((next (respond state call).1).bind f).run respond (respond state call).2).after _ = _
    rw [ih, ← Outcome.andThen_after]
    rfl

/-- A run of an attempt is the run itself, with the result made a value. -/
theorem run_attempt (respond : σ → Call → Reply × σ) :
    ∀ (p : Procedure α) (state : σ),
      p.attempt.run respond state =
        { p.run respond state with result := .ok (p.run respond state).result }
  | .done _, _ => rfl
  | .stop _, _ => rfl
  | .note line next, state => by
    show (next.attempt.run respond state).after (.noted line) = _
    rw [run_attempt respond next state]
    rfl
  | .ask call next, state => by
    have ih := run_attempt respond (next (respond state call).1) (respond state call).2
    show ((next (respond state call).1).attempt.run respond (respond state call).2).after _ = _
    rw [ih]
    rfl

end Procedure

end LogDrain
