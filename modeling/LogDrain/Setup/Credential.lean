/-
  WRITING THE CREDENTIAL: a fresh token for reading logs, the provider's secrets, and a restart.

  A token is issued every time, for the organization that owns the shipper, and written first and
  alone.  The provider's secrets follow, if there are any, and then every machine is restarted so
  that it starts with what was written.
-/
import LogDrain.Setup.Redeploy
import LogDrain.Platform.Operations

namespace LogDrain.Setup

open Procedure (say)

/-- The secret that holds the token. -/
def tokenKey : String := "NATS_TOKEN"

/-- The profile of the token: it may read the apps of the organization. -/
def readProfile : String := "read_organization_apps"

/-- The name of an organization's token. -/
def credentialName (slug : String) : String := slug ++ "-logs"

/-- Issue a token and write it. -/
def writeCredential (shipper : App) : Procedure Unit := do
  let owner := shipper.organization
  let token ← Platform.createToken (credentialName owner.slug) owner.id readProfile .null none
  Platform.setSecrets shipper.id [⟨tokenKey, token⟩]
  say .info ("Set " ++ tokenKey ++ " on log shipper app " ++ shipper.name)

/-- Write the provider's secrets, if there are any. -/
def writeSecrets (shipper : App) (secrets : List Secret) : Procedure Unit := do
  if secrets = [] then return ()
  else
    Platform.setSecrets shipper.id secrets
    say .info ("Set provider secrets on log shipper app " ++ shipper.name ++ ": "
      ++ commaList (secrets.map (·.key)))

/-- Write a fresh token and the provider's secrets and restart the shipper; the keys written. -/
def setCredentialAndDeploy (shipper : App) (secrets : List Secret) : Procedure (List String) := do
  writeCredential shipper
  writeSecrets shipper secrets
  let restarted ← redeploy shipper true
  say .info ("Redeployed log shipper app " ++ shipper.name ++ " (machines restarted="
    ++ Decimal.intText restarted ++ ")")
  return tokenKey :: secrets.map (·.key)

end LogDrain.Setup
