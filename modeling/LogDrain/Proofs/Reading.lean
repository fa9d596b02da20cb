/-
  WHAT IS READ FROM REPLIES: lists entry by entry, and texts that are never empty.

  A listing is read entry by entry or not at all (`mapM_ok_iff`), so each machine of it was read
  from an entry (`exists_of_mem_mapM`), and an empty one was read from no entry.  A value that is
  present is shown as a text that is not empty (`Json.display_ne_empty`), and every machine read has
  a present id, so a machine that was listed can be restarted by its id (`Machines.id_ne_empty`).
-/
import LogDrain.Proofs.Operation
import Mathlib.Data.List.Forall2

namespace LogDrain

/-! ## Readings one after the other

  Laws of `Except` for steps in a row, in the form in which the operations are written. -/

/-- What is read in two steps, the second from what the first gave. -/
theorem bind_eq_ok {α β ε : Type} {x : Except ε α} {f : α → Except ε β} {b : β} :
    x >>= f = .ok b ↔ ∃ a, x = .ok a ∧ f a = .ok b := by
  cases x with
  | error e => exact ⟨nofun, nofun⟩
  | ok a => exact ⟨fun h => ⟨a, rfl, h⟩, fun ⟨_, ha, h⟩ => by cases ha; exact h⟩

/-- Naming a fault otherwise changes no value. -/
theorem mapError_eq_ok {α ε δ : Type} {x : Except ε α} {f : ε → δ} {a : α} :
    x.mapError f = .ok a ↔ x = .ok a := by
  cases x with
  | error e => exact ⟨nofun, nofun⟩
  | ok b => exact ⟨fun h => by cases h; rfl, fun h => by cases h; rfl⟩

/-! ## Reading a list

  A list is read entry by entry, and the results are in step with the entries (`List.Forall₂`). -/

/-- **A list is read entry by entry.** -/
theorem mapM_ok_iff {α β ε : Type} {f : α → Except ε β} {as : List α} {bs : List β} :
    as.mapM f = .ok bs ↔ List.Forall₂ (fun a b => f a = .ok b) as bs := by
  constructor
  · intro h
    -- the list is read from the front, and a fault anywhere is a fault of the whole
    induction as generalizing bs with
    | nil =>
      cases h
      exact .nil
    | cons a as ih =>
      rw [List.mapM_cons] at h
      cases ha : f a with
      | error e =>
        rw [ha] at h
        cases h
      | ok b =>
        cases has : as.mapM f with
        | error e =>
          rw [ha, has] at h
          cases h
        | ok rest =>
          rw [ha, has] at h
          cases h
          exact .cons ha (ih has)
  · intro h
    induction h with
    | nil => rfl
    | cons ha _ ih =>
      rw [List.mapM_cons, ha, ih]
      rfl

/-- What a list is read as, came from one of its entries. -/
theorem exists_of_mem_mapM {α β ε : Type} {f : α → Except ε β} {as : List α} {bs : List β}
    (h : as.mapM f = .ok bs) {b : β} (hb : b ∈ bs) : ∃ a ∈ as, f a = .ok b := by
  have hall := mapM_ok_iff.mp h
  clear h
  induction hall with
  | nil => cases hb
  | cons ha _ ih =>
    rcases List.mem_cons.mp hb with rfl | hrest
    · exact ⟨_, List.mem_cons_self, ha⟩
    · obtain ⟨a, hmem, hread⟩ := ih hrest
      exact ⟨a, List.mem_cons_of_mem _ hmem, hread⟩

/-- Every entry of a list that is read is read as something. -/
theorem exists_reading_of_mem {α β ε : Type} {f : α → Except ε β} {as : List α} {bs : List β}
    (h : as.mapM f = .ok bs) {a : α} (ha : a ∈ as) : ∃ b ∈ bs, f a = .ok b := by
  have hall := mapM_ok_iff.mp h
  clear h
  induction hall with
  | nil => cases ha
  | cons hread _ ih =>
    rcases List.mem_cons.mp ha with rfl | hrest
    · exact ⟨_, List.mem_cons_self, hread⟩
    · obtain ⟨b, hmem, hb⟩ := ih hrest
      exact ⟨b, List.mem_cons_of_mem _ hmem, hb⟩

/-! ## Present values as texts

  A value that is present is shown as a text; of a text that is there, this is the text itself. -/

open Decimal in
theorem Decimal.inFull_ne_nil (digits : List Char) (place : Int) : inFull digits place ≠ [] := by
  unfold inFull
  split
  · exact List.cons_ne_nil _ _
  · simp

open Decimal in
theorem Decimal.positiveText_ne_nil (layout : Layout) (m : Nat) (q : Int) :
    positiveText layout m q ≠ [] := by
  unfold positiveText
  simp only []
  split
  · exact inFull_ne_nil _ _
  · simp [withExponent]

/-- The text of a number is not empty. -/
theorem Decimal.Binary64.text_ne_empty (x : Binary64) : x.text ≠ "" := by
  cases x with
  | nan => decide
  | infinite negative => cases negative <;> decide
  | finite negative m q =>
    intro h
    have htail := (String.append_eq_empty_iff.mp h).2
    split at htail
    · exact absurd htail (by decide)
    · exact positiveText_ne_nil _ _ _ (String.ofList_eq_empty_iff.mp htail)

/-- The digits of an integer are not none. -/
theorem Decimal.intDigits_ne_nil (n : Int) : intDigits n ≠ [] := by
  unfold intDigits
  split
  · exact List.cons_ne_nil _ _
  · exact Nat.toDigits_ne_nil

/-- **What is present is shown as a text that is not empty.** -/
theorem Json.display_ne_empty {v : Json} (h : v.isPresent = true) : v.display ≠ "" := by
  cases v with
  | null => cases h
  | str s =>
    show s ≠ ""
    simpa [isPresent] using h
  | bool b =>
    cases h
    decide
  | int n => exact fun hn => Decimal.intDigits_ne_nil n (String.ofList_eq_empty_iff.mp hn)
  | real x =>
    show String.ofList x.text.toList ≠ ""
    rw [String.ofList_toList]
    exact x.text_ne_empty
  | arr items =>
    intro hn
    have hlisted : listed (.arr items) = [] := String.ofList_eq_empty_iff.mp hn
    cases items <;> cases hlisted
  | obj fields =>
    intro hn
    have hlisted : listed (.obj fields) = [] := String.ofList_eq_empty_iff.mp hn
    cases fields <;> cases hlisted

/-! ## Machines -/

namespace Machines

/-- The id of a machine is what its object has for one, which is present. -/
theorem machine_id {app : String} {call : MachineCall} {fields : Fields} {m : Machine}
    (h : machine app call fields = .ok m) :
    (Fields.get fields "id").isPresent = true ∧ m.id = (Fields.get fields "id").display := by
  unfold machine at h
  split at h
  · rename_i hid
    refine ⟨hid, ?_⟩
    cases hread : Machine.ofJson (.obj fields) with
    | error fault =>
      rw [hread] at h
      cases h
    | ok read =>
      rw [hread] at h
      cases h
      -- whatever the other fields are, the id is read as it is shown
      unfold Machine.ofJson at hread
      simp only [Json.member, bind, Except.bind] at hread
      split at hread
      · cases hread
        rfl
      · cases hread
  · cases h

/-- A machine that is read has an id. -/
theorem machine_id_ne_empty {app : String} {call : MachineCall} {fields : Fields} {m : Machine}
    (h : machine app call fields = .ok m) : m.id ≠ "" := by
  obtain ⟨hpresent, hid⟩ := machine_id h
  rw [hid]
  exact Json.display_ne_empty hpresent

/-- What is made of the body of a reply was read from an accepted one. -/
theorem exists_payload {α : Type} {app : String} {call : MachineCall} {reply : Reply}
    {readBody : List UInt8 → Except Fault α} {value : α}
    (h : (ask app call >>= fun payload => Procedure.ofExcept (readBody payload)).given reply =
      .ok value) :
    ∃ status payload, reply = .answered status payload ∧ isAccepted status = true ∧
      readBody payload = .ok value := by
  rw [Procedure.given_then, given_ask] at h
  cases reply with
  | lost loss => cases loss <;> cases h
  | answered status payload =>
    refine ⟨status, payload, rfl, ?_⟩
    simp only [bodyOf, Procedure.given_ofExcept] at h
    split at h
    · rename_i hstatus
      exact ⟨hstatus, h⟩
    · cases h

/-- What the listing of machines gives was read from an accepted reply. -/
theorem readList_of_list {app : String} {reply : Reply} {machines : List Machine}
    (h : (list app).given reply = .ok machines) :
    ∃ status payload, reply = .answered status payload ∧ isAccepted status = true ∧
      readList app payload = .ok machines := exists_payload h

/-- What a launch gives was read from an accepted reply. -/
theorem readLaunch_of_launch {app : String} {what : Launch} {reply : Reply} {made : Machine}
    (h : (launch app what).given reply = .ok made) :
    ∃ status payload, reply = .answered status payload ∧ isAccepted status = true ∧
      readLaunch app what payload = .ok made := exists_payload h

/-- **The machines listed all have an id.** -/
theorem id_ne_empty {app : String} {reply : Reply} {machines : List Machine}
    (h : (list app).given reply = .ok machines) : ∀ m ∈ machines, m.id ≠ "" := by
  obtain ⟨status, payload, -, -, hread⟩ := readList_of_list h
  unfold readList at hread
  split at hread
  · cases hread
  · intro m hm
    obtain ⟨fields, -, hmachine⟩ := exists_of_mem_mapM hread hm
    exact machine_id_ne_empty hmachine
  · cases hread
    exact fun m hm => absurd hm List.not_mem_nil

end Machines

end LogDrain
