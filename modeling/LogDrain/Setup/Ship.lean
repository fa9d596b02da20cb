/-
  SHIPPING THE LOGS OF AN APP: the whole setup.

    1. the app is looked up;
    2. the provider is chosen, and its secrets are collected or its add-on is provisioned;
    3. the shipper of the app's organization is found or created;
    4. the shipper has, or gets, a machine;
    5. a fresh token and the provider's secrets are written, and the shipper restarts.

  The steps come strictly one after the other, and the first fault ends the setup.  What earlier
  steps created stays and is found by the next setup.
-/
import LogDrain.Setup.AddOn
import LogDrain.Setup.Credential
import LogDrain.Setup.Shipper

namespace LogDrain.Setup

open Procedure (say ofExcept)

/-- What a setup did. -/
structure Summary where
  targetApp : String
  provider : String
  shipperAppId : String
  shipperAppName : String
  addOnProvisioned : Bool
  secretsWritten : List String
  deriving DecidableEq, Repr

/-- The secrets of the provider: those collected from the answers, or the add-on's token. -/
def providerSecrets (target : App) (provider : Provider) (answers : Answers) :
    Procedure (List Secret) := do
  if provider.auto then
    let token ← provisionAddOn target provider.slug
    return provider.tokenSecret.toList.map fun key => ⟨key, token⟩
  else ofExcept ((answers.collect provider).mapError .answers)

/-- Ship the logs of the app's organization to the provider chosen. -/
def ship (image appName : String) (answers : Answers) : Procedure Summary := do
  let target ← Platform.app appName
  let provider ← ofExcept ((answers.select Provider.catalog).mapError .answers)
  say .info ("Log shipping setup for app " ++ target.name ++ ": provider=" ++ provider.slug)
  let secrets ← providerSecrets target provider answers
  let shipper ← ensureShipper image target.organization
  say .info ("Using log shipper app " ++ shipper.name)
  ensureMachine image shipper
  let written ← setCredentialAndDeploy shipper secrets
  return { targetApp := target.name, provider := provider.slug, shipperAppId := shipper.id
           shipperAppName := shipper.name, addOnProvisioned := provider.auto
           secretsWritten := written }

end LogDrain.Setup
