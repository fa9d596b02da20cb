/-
  FINITE VALUES: those that JSON has words for.

  The grammar of JSON knows finite numbers only, so a value that is written to the letter must not
  hold an infinite one or one that is no number, at any depth (`isFinite`).  A value may also be
  written without some of its fields (`dropFields`); what is left out is not looked at.

  `isFinite_dropFields` says that leaving fields out never makes a value unwritable.
-/
import LogDrain.Json.Basic

namespace LogDrain.Json

/-! ## The numbers of a value -/

mutual

/-- Is every number in the value finite? -/
def isFinite : Json → Bool
  | .real x => x.isFinite
  | .arr items => areFinite items
  | .obj fields => haveFinite fields
  | _ => true

/-- Is every number in the items finite? -/
def areFinite : List Json → Bool
  | [] => true
  | v :: vs => v.isFinite && areFinite vs

/-- Is every number in the fields finite? -/
def haveFinite : List (String × Json) → Bool
  | [] => true
  | (_, v) :: fs => v.isFinite && haveFinite fs

end

/-! ## Leaving fields out -/

mutual

/-- The value without the fields, at any depth, whose key is to go. -/
def dropFields (gone : String → Bool) : Json → Json
  | .arr items => .arr (dropInItems gone items)
  | .obj fields => .obj (dropInFields gone fields)
  | v => v

/-- The items, each without the fields whose key is to go. -/
def dropInItems (gone : String → Bool) : List Json → List Json
  | [] => []
  | v :: vs => v.dropFields gone :: dropInItems gone vs

/-- The fields whose key stays, each value without those that go. -/
def dropInFields (gone : String → Bool) : List (String × Json) → List (String × Json)
  | [] => []
  | (k, v) :: fs =>
    if gone k then dropInFields gone fs else (k, v.dropFields gone) :: dropInFields gone fs

end

mutual

/-- A finite value stays finite when fields are left out. -/
theorem isFinite_dropFields (gone : String → Bool) :
    ∀ v : Json, v.isFinite = true → (v.dropFields gone).isFinite = true
  | .null, _ | .bool _, _ | .int _, _ | .str _, _ => rfl
  | .real _, h => h
  | .arr items, h => areFinite_dropInItems gone items h
  | .obj fields, h => haveFinite_dropInFields gone fields h

/-- Finite items stay finite when fields are left out. -/
theorem areFinite_dropInItems (gone : String → Bool) :
    ∀ vs : List Json, areFinite vs = true → areFinite (dropInItems gone vs) = true
  | [], _ => rfl
  | v :: vs, h => by
    simp only [areFinite, Bool.and_eq_true] at h
    simp [dropInItems, areFinite, isFinite_dropFields gone v h.1,
      areFinite_dropInItems gone vs h.2]

/-- Finite fields stay finite when some are left out. -/
theorem haveFinite_dropInFields (gone : String → Bool) :
    ∀ fs : List (String × Json), haveFinite fs = true → haveFinite (dropInFields gone fs) = true
  | [], _ => rfl
  | (k, v) :: fs, h => by
    simp only [haveFinite, Bool.and_eq_true] at h
    have rest := haveFinite_dropInFields gone fs h.2
    by_cases hk : gone k = true
    · simp [dropInFields, hk, rest]
    · simp [dropInFields, hk, haveFinite, isFinite_dropFields gone v h.1, rest]

end

example : isFinite (.obj [("a", .arr [.int 1, .real .nan])]) = false := rfl
example : isFinite (dropFields (· == "a") (.arr [.obj [("a", .real .nan), ("b", .null)]])) =
    true := by
  decide +kernel

end LogDrain.Json
