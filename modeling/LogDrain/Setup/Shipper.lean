/-
  ENSURING THE SHIPPER: the one app of an organization that ships its logs, and its machine.

  The app is found by its role, the machine by listing the app's machines; each is created only if
  the look-up is accepted and empty.  A new app gets its machine at once.  The machine is launched
  in the region nearest to the asker, with a fixed size and the image of the settings.
-/
import LogDrain.Machines
import LogDrain.Platform.Operations

namespace LogDrain.Setup

open Procedure (say)

/-! ## The machine to be launched -/

/-- The image of a shipper unless it is set. -/
def defaultImage : String := "flyio/log-shipper:auto-a14aa63"

/-- The image of a shipper: the trimmed setting, if anything is left of it. -/
def shipperImage (env : Environment) : String :=
  textOr (Text.trim ((env "LOG_SHIPPER_IMAGE").getD "")) defaultImage

/-- What a shipper's machine is marked with. -/
def shipperMetadata : List (String × String) :=
  [("fly_platform_version", "v2"), ("fly-managed-postgres", "true"),
    ("managed-by-fly-deploy", "true")]

/-- The launch of a shipper's machine. -/
def shipperLaunch (image region : String) : Launch :=
  { name := "log-shipper", region
    config := { guest := ⟨"shared", 1, 256⟩, image, metadata := shipperMetadata } }

/-! ## The app and its machine -/

/-- The role that marks a shipper. -/
def shipperRole : String := "log-shipper"

/-- The name of an organization's shipper. -/
def shipperAppName (rawSlug : String) : String := rawSlug ++ "-auto-log-shipper"

/-- Launch a machine of the shipper unless it has one. -/
def ensureMachine (image : String) (shipper : App) : Procedure Unit := do
  let app ← Machines.named shipper.name
  let machines ← Machines.list app
  if machines ≠ [] then return ()
  else
    let region ← Platform.nearestRegion
    let _ ← Machines.launch app (shipperLaunch image region)
    say .info ("Launched log shipper app " ++ shipper.name ++ " in the " ++ region ++ " region")

/-- Create the organization's shipper and its machine. -/
def createShipper (image : String) (organization : Organization) : Procedure App := do
  let shipper ← Platform.createApp organization.id (shipperAppName organization.rawSlug)
    (some shipperRole) true
  say .info ("Created log shipper app " ++ shipper.name ++ " in organization " ++ organization.slug)
  ensureMachine image shipper
  return shipper

/-- Note that an organization has more than one shipper. -/
def warnOfMany (organization : Organization) (shipper : App) (others : List App) : Procedure Unit :=
  if others = [] then .done ()
  else
    say .warning ("Found " ++ Decimal.intText (others.length + 1) ++
      " log shipper apps in organization " ++ organization.slug ++ "; using " ++ shipper.name)

/-- The organization's shipper: the first one there is, or a new one. -/
def ensureShipper (image : String) (organization : Organization) : Procedure App := do
  match ← Platform.appsByRole shipperRole organization.id with
  | [] => createShipper image organization
  | shipper :: others =>
    warnOfMany organization shipper others
    return shipper

end LogDrain.Setup
