/-
  TWINS: two procedures that cannot be told apart.

  Given which calls and which replies count as alike, two procedures are twins (`Twin`) if they note
  the same lines in the same order, stop with the same fault or end with values that are related,
  and ask calls that are alike, going on as twins after all replies that are alike.  It is a
  relation on the trees, with one rule for each way of putting procedures together (`Twin.bind`,
  `Twin.attempt`).

  Twins whose responders keep replies alike leave outcomes that match (`Twin.run`).  A responder
  that takes its replies from a queue is such a one, for queues that are alike place by place
  (`nextReply_alike`).
-/
import LogDrain.Proofs.Exchange
import Mathlib.Data.List.Forall2

namespace LogDrain

/-- Related values, or the same fault. -/
inductive Matched {ε α : Type} (V : α → α → Prop) : Except ε α → Except ε α → Prop
  | ok {a b : α} : V a b → Matched V (.ok a) (.ok b)
  | error (fault : ε) : Matched V (.error fault) (.error fault)

theorem Matched.refl {ε α : Type} {V : α → α → Prop} (hV : ∀ a, V a a) (e : Except ε α) :
    Matched V e e := by
  cases e with
  | ok a => exact .ok (hV a)
  | error fault => exact .error fault

theorem Matched.eq {ε α : Type} {e e' : Except ε α} (h : Matched Eq e e') : e = e' := by
  cases h with
  | ok h => rw [h]
  | error fault => rfl

namespace Procedure

variable {α β σ : Type}

/-- The procedures note the same lines, ask calls that are alike and go on alike, and end with
    related values or with the same fault. -/
inductive Twin (C : Call → Call → Prop) (R : Reply → Reply → Prop) (V : α → α → Prop) :
    Procedure α → Procedure α → Prop
  | done {a b : α} : V a b → Twin C R V (.done a) (.done b)
  | stop (fault : Fault) : Twin C R V (.stop fault) (.stop fault)
  | note (line : LogLine) {p q : Procedure α} :
      Twin C R V p q → Twin C R V (.note line p) (.note line q)
  | ask {call call' : Call} {next next' : Reply → Procedure α} : C call call' →
      (∀ reply reply', R reply reply' → Twin C R V (next reply) (next' reply')) →
      Twin C R V (.ask call next) (.ask call' next')

namespace Twin

variable {C : Call → Call → Prop} {R : Reply → Reply → Prop} {V : α → α → Prop} {W : β → β → Prop}

/-! ## Putting twins together

  Twins are put together as procedures are: by bind, and by a case on what both sides agree on. -/

/-- A procedure that asks nothing is its own twin. -/
theorem of_silent (hV : ∀ a, V a a) : ∀ {p : Procedure α}, p.Silent → Twin C R V p p
  | .done a, _ => .done (hV a)
  | .stop fault, _ => .stop fault
  | .note line _, h => .note line (of_silent hV h)

/-- **Twins followed by twins** are twins. -/
theorem bind {p q : Procedure α} {f g : α → Procedure β} (h : Twin C R V p q)
    (hfg : ∀ a b, V a b → Twin C R W (f a) (g b)) : Twin C R W (p.bind f) (q.bind g) := by
  induction h with
  | done hab => exact hfg _ _ hab
  | stop fault => exact .stop fault
  | note line _ ih => exact .note line ih
  | ask hcall _ ih => exact .ask hcall fun reply reply' hreply => ih reply reply' hreply

/-- What follows equal values has to be twins for one value only. -/
theorem bind_eq {p q : Procedure α} {f g : α → Procedure β} (h : Twin C R Eq p q)
    (hfg : ∀ a, Twin C R W (f a) (g a)) : Twin C R W (p.bind f) (q.bind g) := by
  refine h.bind fun a b hab => ?_
  subst hab
  exact hfg a

/-- Attempts of twins are twins, and their values match. -/
theorem attempt {p q : Procedure α} (h : Twin C R V p q) :
    Twin C R (Matched V) p.attempt q.attempt := by
  induction h with
  | done hab => exact .done (.ok hab)
  | stop fault => exact .done (.error fault)
  | note line _ ih => exact .note line ih
  | ask hcall _ ih => exact .ask hcall ih

theorem ofExcept {e e' : Except Fault α} (h : Matched V e e') :
    Twin C R V (Procedure.ofExcept e) (Procedure.ofExcept e') := by
  cases h with
  | ok hab => exact .done hab
  | error fault => exact .stop fault

theorem ofShape {e e' : Except ShapeFault α} (h : Matched V e e') :
    Twin C R V (Procedure.ofShape e) (Procedure.ofShape e') := by
  cases h with
  | ok hab => exact .done hab
  | error fault => exact .stop (.shape fault)

end Twin

/-! ## Running twins

  Whoever replies to one side replies to the other with replies that are alike, and both runs go
  on in step.  So the two are compared reply by reply, by induction on the procedures. -/

/-- The outcomes match: related values or the same fault, the same lines, calls that are alike, and
    related states. -/
structure Outcome.Twin (C : Call → Call → Prop) (S : σ → σ → Prop) (V : α → α → Prop)
    (o o' : Outcome σ α) : Prop where
  result : Matched V o.result o'.result
  lines : o.lines = o'.lines
  calls : List.Forall₂ C o.calls o'.calls
  state : S o.state o'.state

/-- A responder keeps replies alike: from related states, calls that are alike get replies that are
    alike, and the states after them are related. -/
def KeepsAlike (C : Call → Call → Prop) (R : Reply → Reply → Prop) (S : σ → σ → Prop)
    (respond : σ → Call → Reply × σ) : Prop :=
  ∀ s s' call call', S s s' → C call call' →
    R (respond s call).1 (respond s' call').1 ∧ S (respond s call).2 (respond s' call').2

/-- **Twins leave outcomes that match.** -/
theorem Twin.run {C : Call → Call → Prop} {R : Reply → Reply → Prop} {S : σ → σ → Prop}
    {V : α → α → Prop} {respond : σ → Call → Reply × σ} (hrespond : KeepsAlike C R S respond)
    {p q : Procedure α} (h : Twin C R V p q) {s s' : σ} (hs : S s s') :
    Outcome.Twin C S V (p.run respond s) (q.run respond s') := by
  induction h generalizing s s' with
  | done hab => exact ⟨.ok hab, rfl, .nil, hs⟩
  | stop fault => exact ⟨.error fault, rfl, .nil, hs⟩
  | note line _ ih =>
    obtain ⟨hresult, hlines, hcalls, hstate⟩ := ih hs
    exact ⟨hresult, congrArg (line :: ·) hlines, hcalls, hstate⟩
  | ask hcall _ ih =>
    obtain ⟨hreply, hnext⟩ := hrespond s s' _ _ hs hcall
    obtain ⟨hresult, hlines, hcalls, hstate⟩ := ih _ _ hreply hnext
    exact ⟨hresult, hlines, .cons hcall hcalls, hstate⟩

/-- Queues that are alike place by place keep replies alike. -/
theorem nextReply_alike (C : Call → Call → Prop) {R : Reply → Reply → Prop}
    (hlost : R (.lost .client) (.lost .client)) : KeepsAlike C R (List.Forall₂ R) nextReply := by
  intro replies replies' call call' hreplies _
  cases hreplies with
  | nil => exact ⟨hlost, .nil⟩
  | cons hreply hrest => exact ⟨hreply, hrest⟩

end Procedure

end LogDrain
