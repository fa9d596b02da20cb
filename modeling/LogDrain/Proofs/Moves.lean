/-
  MOVES: what a setup does at one go, and that a setup is nothing but a row of moves.

  A move is one call that creates nothing, or a look-up that showed that something is not there,
  together with its creation (`Move`).  Every course is a row of them (`ShipCourse.moves`).  So what
  is to be shown of all exchanges of a setup is shown of the four moves, if it is kept when runs are
  put one after the other (`Moves.closed`).

  Four kinds are enough, since a setup makes three things and everything else makes nothing.  A
  machine takes a move of three exchanges: its listing, the region, and the launch.
-/
import LogDrain.Proofs.Course

namespace LogDrain

/-- The call creates an add-on, an app or a machine. -/
def Call.Creates : Call → Prop
  | .query (.createAddOn ..) | .query (.createApp ..) | .machines _ (.launch _) => True
  | _ => False

namespace Setup

open Procedure

/-- A call that creates nothing, or a creation after the look-up that led to it. -/
inductive Move : List Exchange → Prop
  | lone {x : Exchange} : ¬ x.1.Creates → Move [x]
  | addOn {target : App} {addOnType : String} {reply fault made} :
      (Platform.addOn (addOnName target.name)).given reply = .error fault → fault.kind = .notFound →
      Move [(addOnCall target, reply), (createAddOnCall target addOnType, made)]
  | shipper {organization : Organization} {reply made} :
      (Platform.appsByRole shipperRole organization.id).given reply = .ok [] →
      Move [(shippersCall organization, reply), (createShipperCall organization, made)]
  | machine {image : String} {shipper : App} {listing near region made} :
      (Machines.list shipper.name).given listing = .ok [] →
      Platform.nearestRegion.given near = .ok region →
      Move [(listCall shipper, listing), (regionCall, near),
        (launchCall image shipper region, made)]

/-- Moves in a row. -/
inductive Moves : List Exchange → Prop
  | nil : Moves []
  | cons {xs ys} : Move xs → Moves ys → Moves (xs ++ ys)

variable {α β : Type} {xs ys : List Exchange}

/-- **What holds of every move and is kept when runs are put together** holds of moves in a row. -/
theorem Moves.closed {K : List Exchange → Prop} (h : Moves xs) (hnil : K [])
    (happend : ∀ {xs ys}, K xs → K ys → K (xs ++ ys)) (hmove : ∀ {xs}, Move xs → K xs) : K xs := by
  induction h with
  | nil => exact hnil
  | cons hfirst _ ih => exact happend (hmove hfirst) ih

theorem Moves.append (hx : Moves xs) (hy : Moves ys) : Moves (xs ++ ys) := by
  induction hx with
  | nil => exact hy
  | cons hfirst _ ih =>
    rw [List.append_assoc]
    exact .cons hfirst ih

theorem Move.alone (h : Move xs) : Moves xs := by
  rw [← List.append_nil xs]
  exact .cons h .nil

theorem Then.moves {P : Course α} {Q : α → Course β} {r : Except Fault β} (h : Then P Q xs r)
    (hP : ∀ {xs r}, P xs r → Moves xs) (hQ : ∀ {value xs r}, Q value xs r → Moves xs) :
    Moves xs := by
  cases h with
  | stopped hstop => exact hP hstop
  | went hfirst hrest => exact (hP hfirst).append (hQ hrest)

theorem Plain.moves {e r : Except Fault α} (h : Plain e xs r) : Moves xs := by
  obtain ⟨⟩ := h
  exact .nil

/-- One call is a move if it creates nothing. -/
theorem Once.moves {call : Call} {p : Procedure α} {r : Except Fault α} (h : Once call p xs r)
    (hcall : ¬ call.Creates) : Moves xs := by
  obtain ⟨reply⟩ := h
  exact (Move.lone hcall).alone

/-! ## The steps

  Each course is a row of moves: what is created stands right behind the look-up that showed it
  missing, and everything else creates nothing. -/

/-- The add-on is looked up, or looked up and created, and either is a move. -/
theorem AddOnCourse.moves {target : App} {slug : String} {r : Except Fault String}
    (h : AddOnCourse target slug xs r) : Moves xs := by
  cases h with
  | found | failed | unsupported => exact (Move.lone id).alone
  | refused hfound hkind | created hfound hkind => exact (Move.addOn hfound hkind).alone

theorem ProviderCourse.moves {target : App} {provider : Provider} {answers : Answers}
    {r : Except Fault (List Secret)} (h : ProviderCourse target provider answers xs r) :
    Moves xs := by
  unfold ProviderCourse at h
  split at h
  · exact h.moves AddOnCourse.moves Plain.moves
  · exact h.moves

/-- A machine is launched as the last call of a move: listing, region, launch.  Where it is not
    launched each call stands alone. -/
theorem MachineCourse.moves {image : String} {shipper : App} {r : Except Fault Unit}
    (h : MachineCourse image shipper xs r) : Moves xs := by
  cases h with
  | blank => exact .nil
  | unlisted | found => exact (Move.lone id).alone
  | nowhere => exact Moves.cons (Move.lone id) (Move.lone id).alone
  | refused _ hlist hregion | launched _ hlist hregion => exact (Move.machine hlist hregion).alone

/-- A shipper is created right after its look-up; its machine is another move. -/
theorem ShipperCourse.moves {image : String} {organization : Organization} {r : Except Fault App}
    (h : ShipperCourse image organization xs r) : Moves xs := by
  cases h with
  | unlisted | found => exact (Move.lone id).alone
  | refused hlook => exact (Move.shipper hlook).alone
  | created hlook _ hequip =>
    exact Moves.cons (Move.shipper hlook) (hequip.moves MachineCourse.moves Plain.moves)

/-- Restarts and waits create nothing, by induction on the machines. -/
theorem RestartCourse.moves {app : String} {skip : Bool} {machines : List Machine}
    {r : Except Fault Unit} (h : RestartCourse app skip machines xs r) : Moves xs := by
  induction h with
  | nil | unnamed => exact .nil
  | refused => exact (Move.lone id).alone
  | unready => exact Moves.cons (Move.lone id) (Move.lone id).alone
  | skipped _ _ _ _ ih => exact Moves.cons (Move.lone id) ih
  | waited _ _ _ _ _ ih => exact Moves.cons (Move.lone id) (Moves.cons (Move.lone id) ih)

theorem RedeployCourse.moves {target : App} {skip : Bool} {r : Except Fault Nat}
    (h : RedeployCourse target skip xs r) : Moves xs := by
  cases h with
  | blank => exact .nil
  | unlisted => exact (Move.lone id).alone
  | listed _ _ hrestart => exact Moves.cons (Move.lone id) hrestart.moves

/-- A deployment creates nothing: tokens and secrets are written, machines restarted. -/
theorem DeployCourse.moves {shipper : App} {secrets : List Secret} {r : Except Fault Nat}
    (h : DeployCourse shipper secrets xs r) : Moves xs := by
  refine Then.moves h (fun hcredential => ?_) fun hrest => ?_
  · exact Then.moves hcredential (fun hissue => hissue.moves id) fun hwrite => hwrite.moves id
  · refine hrest.moves (fun hsecrets => ?_) RedeployCourse.moves
    unfold SecretsCourse at hsecrets
    split at hsecrets
    · exact hsecrets.moves
    · exact hsecrets.moves id

/-- **A setup is a row of moves.** -/
theorem ShipCourse.moves {image appName : String} {answers : Answers} {r : Except Fault Summary}
    (h : ShipCourse image appName answers xs r) : Moves xs := by
  refine Then.moves h (fun htarget => htarget.moves id) fun hselect => ?_
  refine hselect.moves Plain.moves fun hchosen => ?_
  refine Then.moves hchosen ProviderCourse.moves fun hshipper => ?_
  refine hshipper.moves ShipperCourse.moves fun hequip => ?_
  refine hequip.moves MachineCourse.moves fun hdeployed => ?_
  exact hdeployed.moves DeployCourse.moves Plain.moves

end Setup

end LogDrain
