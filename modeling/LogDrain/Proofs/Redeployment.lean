/-
  REDEPLOYMENT: every machine listed is restarted once, in order, up to the first reply that is
  rejected.

  After the listing, what is to be asked is fixed by the machines (`rounds`): one restart for each,
  with a wait for it to start unless health checks are skipped.  `InTurn` says that calls are made
  one after the other as long as each is answered with "done" (`Reply.IsDone`); restarting is such a
  row (`RestartCourse.inTurn`), for no machine listed is without an id.

  Against a queue of replies a row has one of two ends (`InTurn.ends`): every reply to it is "done",
  and it is made whole; or there is a first reply that is not (`StopsAt`), and it is made up to
  there.  With the listing before it (`Restarting`), this is all that is said of a run by
  `redeploys_in_order`.
-/
import LogDrain.Proofs.Breakage
import LogDrain.Proofs.Halves
import LogDrain.Proofs.Listing

namespace LogDrain

open Procedure

/-! ## Done, or rejected

  Of a restart and of a wait only the status counts, so there are two things that a reply can be:
  done, or a rejection whose fault is made of the reply alone.  `Settles` says that an operation
  does nothing else with it. -/

/-- The reply says that it was done. -/
def Reply.IsDone (reply : Reply) : Prop :=
  ∃ status payload, reply = .answered status payload ∧ LogDrain.IsDone status

/-- What a call of the Machines API stops with when the reply does not say so. -/
def MachineCall.rejection (app : String) (call : MachineCall) : Reply → Fault
  | .answered status payload =>
      .machines app (.status call.action status (Envelope.details payload))
  | .lost loss => (Call.machines app call).lossFault loss

namespace Machines

variable {app : String} {call : MachineCall} {reply : Reply}

/-- The call is answered with "done", and nothing else is made of it; or it stops with the
    rejection. -/
def Settles (app : String) (call : MachineCall) (reply : Reply) (e : Except Fault Unit) : Prop :=
  (reply.IsDone ∧ e = .ok ()) ∨ ¬ reply.IsDone ∧ e = .error (call.rejection app reply)

/-- A call that did not end well was rejected by this very reply. -/
theorem Settles.of_error {fault : Fault} (h : Settles app call reply (.error fault)) :
    ¬ reply.IsDone ∧ fault = call.rejection app reply := by
  rcases h with ⟨-, hok⟩ | ⟨hnot, herror⟩
  · cases hok
  · cases herror
    exact ⟨hnot, rfl⟩

end Machines

/-! ## Calls in turn

  A row of calls is made one after the other, and ends at the first rejection.  This is said
  twice: along the exchanges (`InTurn`), and of the places of a queue (`StopsAt`); `InTurn.ends`
  is the bridge between the two, by induction on the row. -/

/-- The calls are made one after the other, as long as each is answered with "done". -/
inductive InTurn (app : String) : List MachineCall → List Exchange → Except Fault Unit → Prop
  | nil : InTurn app [] [] (.ok ())
  | rejected {call calls reply} : ¬ reply.IsDone →
      InTurn app (call :: calls) [(.machines app call, reply)] (.error (call.rejection app reply))
  | done {call calls reply xs r} : reply.IsDone → InTurn app calls xs r →
      InTurn app (call :: calls) ((.machines app call, reply) :: xs) r

/-- The reply at this place is the first that does not say "done". -/
def StopsAt (replies : List Reply) (place : Nat) : Prop :=
  ¬ (replyAt replies place).IsDone ∧ ∀ earlier < place, (replyAt replies earlier).IsDone

/-- Where the queue stops within a row, not every reply to it says "done". -/
theorem StopsAt.not_all {replies : List Reply} {place : Nat} {calls : List MachineCall}
    {call : MachineCall} (h : StopsAt replies place) (hat : calls[place]? = some call) :
    ¬ ∀ place < calls.length, (replyAt replies place).IsDone :=
  fun hall => h.1 (hall place (List.getElem?_eq_some_iff.mp hat).1)

/-- A row that stops later than its first call stops one place earlier once that call is made. -/
theorem StopsAt.succ {replies : List Reply} {place : Nat} (hfirst : (replyAt replies 0).IsDone)
    (h : StopsAt (replies.drop 1) place) : StopsAt replies (place + 1) := by
  refine ⟨by rw [← replyAt_drop]; exact h.1, fun earlier hlt => ?_⟩
  cases earlier with
  | zero => exact hfirst
  | succ earlier =>
    rw [← replyAt_drop]
    exact h.2 earlier (Nat.lt_of_succ_lt_succ hlt)

/-- **A row of calls against a queue is made whole**, or up to the first reply that does not say
    "done". -/
theorem InTurn.ends {app : String} {calls : List MachineCall} {xs : List Exchange}
    {r : Except Fault Unit} (h : InTurn app calls xs r) {replies rest : List Reply}
    (hserved : Served nextReply replies xs rest) :
    ((∀ place < calls.length, (replyAt replies place).IsDone) ∧
      xs.map Prod.fst = calls.map (.machines app) ∧ r = .ok ()) ∨
    ∃ place call, calls[place]? = some call ∧ StopsAt replies place ∧
      xs.map Prod.fst = (calls.take (place + 1)).map (.machines app) ∧
      r = .error (call.rejection app (replyAt replies place)) := by
  induction h generalizing replies with
  | nil => exact Or.inl ⟨nofun, rfl, rfl⟩
  | @rejected call calls reply hnot =>
    obtain ⟨rfl, -⟩ := served_cons hserved
    exact Or.inr ⟨0, call, rfl, ⟨hnot, nofun⟩, rfl, rfl⟩
  -- the call was done: what the rest comes to is one place further along the queue
  | @done call calls reply xs r hdone _ ih =>
    obtain ⟨rfl, hrest⟩ := served_cons hserved
    rcases ih hrest with ⟨hall, hcalls, hr⟩ | ⟨place, stop, hat, hstops, hcalls, hr⟩
    · refine Or.inl ⟨fun place hplace => ?_, by rw [List.map_cons, List.map_cons, hcalls], hr⟩
      cases place with
      | zero => exact hdone
      | succ place =>
        rw [← replyAt_drop]
        exact hall place (Nat.lt_of_succ_lt_succ hplace)
    · refine Or.inr ⟨place + 1, stop, hat, hstops.succ hdone, ?_, by rw [hr, replyAt_drop]⟩
      rw [List.take_succ_cons, List.map_cons, List.map_cons, hcalls]

namespace Setup

/-! ## Restarting in turn

  What is asked for a machine does not depend on any reply, so all of it can be written down
  before the run.  Only that every machine has an id is needed, or a restart would not be asked
  for at all. -/

/-- What is asked for one machine. -/
def round (skip : Bool) (machine : Machine) : List MachineCall :=
  .restart machine.id :: if skip then [] else [.wait machine.id "started" startSeconds]

/-- What is asked for the machines, in their order. -/
def rounds (skip : Bool) (machines : List Machine) : List MachineCall :=
    machines.flatMap (round skip)

variable {target : App} {skip : Bool} {listed : Reply} {replies later rest : List Reply}
  {xs : List Exchange} {calls : List Call} {listing : Except Fault (List Machine)}
  {r : Except Fault Nat}

/-- What a redeployment comes to, by what the listing gives and the replies after it: calls and
    result. -/
inductive Restarting (target : App) (skip : Bool) (later : List Reply) :
    Except Fault (List Machine) → List Call → Except Fault Nat → Prop
  | unlisted {fault} : Restarting target skip later (.error fault) [listCall target] (.error fault)
  | whole {machines} :
      (∀ place < (rounds skip machines).length, (replyAt later place).IsDone) →
      Restarting target skip later (.ok machines)
        (listCall target :: (rounds skip machines).map (.machines target.name))
        (.ok machines.length)
  | cut {machines place call} : (rounds skip machines)[place]? = some call → StopsAt later place →
      Restarting target skip later (.ok machines)
        (listCall target :: ((rounds skip machines).take (place + 1)).map (.machines target.name))
        (.error (call.rejection target.name (replyAt later place)))

/-- The machine that the call restarts. -/
def restarted? : Call → Option String
  | .machines _ (.restart id) => some id
  | _ => none

/-- The machine that the call waits for. -/
def awaited? : Call → Option String
  | .machines _ (.wait id _ _) => some id
  | _ => none

/-- Each machine is restarted as often as it is listed. -/
theorem restarted_rounds (app : String) (skip : Bool) (machines : List Machine) :
    ((rounds skip machines).map (.machines app)).filterMap restarted? = machines.map (·.id) := by
  induction machines with
  | nil => rfl
  | cons machine machines ih =>
    rw [rounds, List.flatMap_cons, List.map_append, List.filterMap_append]
    cases skip <;> exact congrArg (machine.id :: ·) ih

/-- Each is waited for as often, unless that is skipped. -/
theorem awaited_rounds (app : String) (skip : Bool) (machines : List Machine) :
    ((rounds skip machines).map (.machines app)).filterMap awaited? =
      if skip then [] else machines.map (·.id) := by
  induction machines with
  | nil => cases skip <;> rfl
  | cons machine machines ih =>
    rw [rounds, List.flatMap_cons, List.map_append, List.filterMap_append]
    cases skip with
    | true => exact ih
    | false => exact congrArg (machine.id :: ·) ih

/-- No machine is asked for a listing. -/
theorem list_notMem_rounds (skip : Bool) (machines : List Machine) :
    MachineCall.list ∉ rounds skip machines := by
  cases skip <;> simp [rounds, round]

/-! ## The redeployment

  Three cases are left: no listing, every call done, and a first call that was not.  Each is put
  into words by itself, with the parts that do not apply in it left to the case that they are
  about. -/

/-- Every machine listed has an address of its own: no half of a character stands alone in an id.  A
    half is shown as the replacement character, so an id without one holds none. -/
def Addressable (listed : Reply) (machines : List Machine) : Prop :=
  listed.IsPaired ∨ ∀ machine ∈ machines, Text.Utf8.replacement ∉ machine.id.toList

/-- What is said of a redeployment with this listing and the reply that it was read from, these
    replies after it, these calls and this result: every machine listed is restarted once, in order,
    up to the first reply that is rejected.

    The reply to the call at place `n + 1` is the one at place `n` of those after the listing.  That
    nothing but a rejection ends the row (`returns`, `cut`) is said of machines that have an
    address; everything else is said of every listing. -/
structure Redeployed (target : App) (skip : Bool) (listed : Reply) (later : List Reply)
    (listing : Except Fault (List Machine)) (calls : List Call) (r : Except Fault Nat) : Prop where
  opens : ∃ rest, calls = listCall target :: rest ∧ listCall target ∉ rest
  unlisted : ∀ fault, listing = .error fault → calls = [listCall target] ∧ r = .error fault
  empty : listing = .ok [] → calls = [listCall target] ∧ r = .ok 0
  returns_iff : ∀ n, r = .ok n ↔ ∃ machines, listing = .ok machines ∧ n = machines.length ∧
    calls = listCall target :: (rounds skip machines).map (.machines target.name) ∧
    ∀ place < (rounds skip machines).length, (replyAt later place).IsDone
  rejected : ∀ place, place + 1 < calls.length → ¬ (replyAt later place).IsDone →
    calls.length = place + 2 ∧ ∃ call, calls[place + 1]? = some (.machines target.name call) ∧
      r = .error (call.rejection target.name (replyAt later place))
  returns : ∀ machines, listing = .ok machines → Addressable listed machines →
    (∀ place < (rounds skip machines).length, (replyAt later place).IsDone) →
    r = .ok machines.length
  cut : ∀ machines, listing = .ok machines → Addressable listed machines →
    (¬ ∀ place < (rounds skip machines).length, (replyAt later place).IsDone) →
    ∃ place call, (rounds skip machines)[place]? = some call ∧ StopsAt later place ∧
      calls = listCall target :: ((rounds skip machines).take (place + 1)).map
        (.machines target.name) ∧
      r = .error (call.rejection target.name (replyAt later place))
  order : ∀ machines, listing = .ok machines → calls.filterMap restarted? <+: machines.map (·.id)
  each : ∀ machines n, listing = .ok machines → r = .ok n →
    calls.filterMap restarted? = machines.map (·.id) ∧
      calls.filterMap awaited? = if skip then [] else machines.map (·.id)

/-- The listing is not asked for again: what follows it are restarts and waits. -/
theorem listCall_notMem {round : List MachineCall} (h : MachineCall.list ∉ round) :
    listCall target ∉ round.map (.machines target.name) := by
  rintro hmem
  obtain ⟨call, hcall, heq⟩ := List.mem_map.mp hmem
  cases heq
  exact h hcall

/-- Without a listing nothing is restarted, and all that is said of restarts says nothing. -/
theorem redeployed_unlisted {fault : Fault} :
    Redeployed target skip listed later (.error fault) [listCall target] (.error fault) where
  opens := ⟨[], rfl, List.not_mem_nil⟩
  unlisted := by
    rintro _ ⟨⟩
    exact ⟨rfl, rfl⟩
  empty := nofun
  returns_iff _ := iff_of_false nofun fun ⟨_, h, _⟩ => nomatch h
  rejected _ hplace := absurd hplace (by simp)
  returns := nofun
  cut := nofun
  order := nofun
  each := nofun

/-- **Every call of the round was done**: all of them are made, and the machines are counted. -/
theorem redeployed_whole {machines : List Machine}
    (hall : ∀ place < (rounds skip machines).length, (replyAt later place).IsDone) :
    Redeployed target skip listed later (.ok machines)
      (listCall target :: (rounds skip machines).map (.machines target.name))
      (.ok machines.length) where
  opens := ⟨_, rfl, listCall_notMem (list_notMem_rounds skip machines)⟩
  unlisted := nofun
  empty := by
    rintro ⟨⟩
    exact ⟨rfl, rfl⟩
  returns_iff n := by
    constructor
    · rintro ⟨⟩
      exact ⟨machines, rfl, rfl, rfl, hall⟩
    · rintro ⟨_, ⟨⟩, rfl, -⟩
      rfl
  rejected place hplace hnot := by
    -- every place of the row has a reply that says "done"
    rw [List.length_cons, List.length_map] at hplace
    exact absurd (hall place (Nat.lt_of_succ_lt_succ hplace)) hnot
  returns := by
    rintro _ ⟨⟩ - -
    rfl
  cut := by
    rintro _ ⟨⟩ - hnot
    exact absurd hall hnot
  order := by
    rintro _ ⟨⟩
    exact (restarted_rounds target.name skip machines).symm ▸ List.prefix_refl _
  each := by
    rintro _ _ ⟨⟩ -
    exact ⟨restarted_rounds target.name skip machines, awaited_rounds target.name skip machines⟩

/-- **A first call was rejected**: the calls are made up to it, and its rejection is the fault. -/
theorem redeployed_cut {machines : List Machine} {place : Nat} {call : MachineCall}
    (hat : (rounds skip machines)[place]? = some call) (hstops : StopsAt later place) :
    Redeployed target skip listed later (.ok machines)
      (listCall target :: ((rounds skip machines).take (place + 1)).map (.machines target.name))
      (.error (call.rejection target.name (replyAt later place))) where
  opens := ⟨_, rfl, listCall_notMem fun hmem =>
    list_notMem_rounds skip machines (List.mem_of_mem_take hmem)⟩
  unlisted := nofun
  empty := by
    -- a row without calls is not cut
    rintro ⟨⟩
    cases hat
  returns_iff _ := by
    refine iff_of_false nofun ?_
    rintro ⟨_, ⟨⟩, -, -, hall⟩
    exact hstops.not_all hat hall
  rejected earlier hearlier hnot := by
    have hlength : ((rounds skip machines).take (place + 1)).length = place + 1 :=
      List.length_take_of_le (List.getElem?_eq_some_iff.mp hat).1
    rw [List.length_cons, List.length_map, hlength] at hearlier ⊢
    -- the replies before the last say "done", so the one that does not is the last
    obtain rfl : earlier = place :=
      Nat.le_antisymm (by omega) (Nat.le_of_not_lt fun hlt => hnot (hstops.2 earlier hlt))
    refine ⟨rfl, call, ?_, rfl⟩
    rw [List.getElem?_cons_succ, List.getElem?_map, List.getElem?_take_of_succ, hat]
    rfl
  returns := by
    rintro _ ⟨⟩ - hall
    exact absurd hall (hstops.not_all hat)
  cut := by
    rintro _ ⟨⟩ - -
    exact ⟨place, call, hat, hstops, rfl, rfl⟩
  order := by
    rintro _ ⟨⟩
    rw [← restarted_rounds target.name skip machines]
    exact ((List.take_prefix _ _).map _).filterMap _
  each := nofun

theorem Restarting.redeployed (h : Restarting target skip later listing calls r) :
    Redeployed target skip listed later listing calls r := by
  cases h with
  | unlisted => exact redeployed_unlisted
  | whole hall => exact redeployed_whole hall
  | cut hat hstops => exact redeployed_cut hat hstops

namespace Unready

def shipper : App := ⟨"app_s", "acme-shipper", ⟨"org_acme", "acme", "acme"⟩⟩

/-- The first machine is listed twice. -/
def machines : List Machine :=
  ["m_1", "m_2", "m_1"].map fun id => ⟨id, none, some "started", some "ord", none⟩

/-- The first restart and its wait are done, the second is restarted and does not start. -/
def queue : List Reply :=
  [Cloud.jsonReply (.arr (machines.map (·.toJson))), .answered 200 [], .answered 200 [],
   .answered 201 [], .answered 408 []]

end Unready

end Setup

end LogDrain
