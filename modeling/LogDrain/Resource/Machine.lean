/-
  MACHINES: how a launch is asked for, and how a machine is read.

  Everything about a machine but its id may be missing; what is there has to be text.  The image
  stands in the machine's configuration.
-/
import LogDrain.Json.Display
import LogDrain.Resource.Shape

namespace LogDrain

/-! ## Launching -/

/-- The size of a machine. -/
structure Guest where
  cpuKind : String
  cpus : Int
  memoryMb : Int
  deriving DecidableEq, Repr

/-- What a machine runs. -/
structure MachineConfig where
  guest : Guest
  image : String
  metadata : List (String × String)
  deriving DecidableEq, Repr

/-- A machine to be launched. -/
structure Launch where
  name : String
  region : String
  config : MachineConfig
  deriving DecidableEq, Repr

/-- The size as a value. -/
def Guest.toJson (g : Guest) : Json :=
  .obj [("cpu_kind", .str g.cpuKind), ("cpus", .int g.cpus), ("memory_mb", .int g.memoryMb)]

/-- The metadata as fields; a key that is given twice keeps its first place and its last value. -/
def metadataFields (metadata : List (String × String)) : Fields :=
  Fields.ofPairs (metadata.map fun p => (p.1, .str p.2))

/-- The configuration as a value. -/
def MachineConfig.toJson (c : MachineConfig) : Json :=
  .obj [("guest", c.guest.toJson), ("image", .str c.image),
        ("metadata", .obj (metadataFields c.metadata))]

/-- The launch as a value. -/
def Launch.toJson (l : Launch) : Json :=
  .obj [("name", .str l.name), ("region", .str l.region), ("config", l.config.toJson)]

/-! ## Reading -/

/-- A machine of an app. -/
structure Machine where
  id : String
  name : Option String
  state : Option String
  region : Option String
  image : Option String
  deriving DecidableEq, Repr

/-- The machine that a value describes. -/
def Machine.ofJson (v : Json) : Except ShapeFault Machine := do
  let config ← v.member "config"
  let id ← v.member "id"
  let name ← v.member "name"
  let state ← v.member "state"
  let region ← v.member "region"
  let image := match config with
    | .obj fields => Fields.get fields "image"
    | _ => .null
  match name.optionalText "name", state.optionalText "state", region.optionalText "region",
      image.optionalText "image" with
  | .ok name, .ok state, .ok region, .ok image =>
    return { id := id.display, name, state, region, image }
  | name, state, region, image =>
    throw (.wrongFields "Machine" (FieldFault.all [name, state, region, image]))

example : Machine.ofJson (.obj [("id", .int 7), ("state", .str "started")]) =
    .ok ⟨"7", none, some "started", none, none⟩ := rfl
example : Machine.ofJson (.obj [("name", .int 1), ("region", .bool true)]) =
    .error (.wrongFields "Machine" [.noText "name", .noText "region"]) := rfl

end LogDrain
