/-
  PROVISIONING AN ADD-ON: the token of the add-on behind an automatic provider.

  The add-on of an app has a name of its own.  It is looked up first; only if it is not found, and
  the provider has a kind of add-on, is it created, and only once.  An add-on without a token is of
  no use and stops the procedure.
-/
import LogDrain.Platform.Operations

namespace LogDrain.Setup

open Procedure (say)

/-- The name of an app's add-on. -/
def addOnName (app : String) : String := app ++ "-log-shipper"

/-- The add-on's token, which has to be there. -/
def tokenOf (addOn : AddOn) : Procedure String :=
  if addOn.token = "" then .stop (.api (.noAddOnToken addOn.name)) else .done addOn.token

/-- Create the add-on of the app for a provider. -/
def createAddOn (target : App) (slug : String) : Procedure String := do
  match Provider.addOnType? slug with
  | none => .stop (.addOnType slug)
  | some addOnType =>
    let name := addOnName target.name
    let created ← Platform.createAddOn target.organization.id name target.id addOnType
    say .info ("Created " ++ addOnType ++ " add-on " ++ name ++ " for app " ++ target.name)
    tokenOf created

/-- Go on with what the look-up gave: reuse the add-on, create it if it is not there, or stop. -/
def settleAddOn (target : App) (slug : String) : Except Fault AddOn → Procedure String
  | .ok existing => do
    say .info ("Add-on " ++ addOnName target.name ++ " already provisioned; reusing its token")
    tokenOf existing
  | .error fault =>
    if fault.kind = .notFound then do
      say .debug ("Add-on " ++ addOnName target.name ++ " not found (" ++ fault.message
        ++ "); creating it")
      createAddOn target slug
    else .stop fault

/-- The token of the app's add-on for a provider. -/
def provisionAddOn (target : App) (slug : String) : Procedure String := do
  let found ← (Platform.addOn (addOnName target.name)).attempt
  settleAddOn target slug found

end LogDrain.Setup
