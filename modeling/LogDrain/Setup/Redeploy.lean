/-
  REDEPLOYING: every machine of an app is restarted in place, one after the other.

  The machines are restarted in the order in which they are listed, each as often as it is listed.
  Unless health checks are skipped, a machine has to have started before the next one is restarted.
-/
import LogDrain.Machines
import LogDrain.Resource.App

namespace LogDrain.Setup

open Procedure (say)

/-- How long a machine may take to start, in seconds. -/
def startSeconds : Int := 60

/-- Restart one machine and, unless that is skipped, wait until it has started. -/
def restartMachine (app : String) (skipHealthChecks : Bool) (machine : Machine) :
    Procedure Unit := do
  say .info ("Restarting machine " ++ machine.id ++ " of app " ++ app)
  Machines.restart app machine.id
  if skipHealthChecks then return ()
  else Machines.wait app machine.id "started" startSeconds

/-- Restart the machines in order. -/
def restartAll (app : String) (skipHealthChecks : Bool) : List Machine → Procedure Unit
  | [] => .done ()
  | machine :: machines => do
    restartMachine app skipHealthChecks machine
    restartAll app skipHealthChecks machines

/-- Restart every machine of the app; how many there were. -/
def redeploy (target : App) (skipHealthChecks : Bool) : Procedure Nat := do
  let app ← Machines.named target.name
  let machines ← Machines.list app
  if machines = [] then
    say .info ("No machines to redeploy for app " ++ app)
    return 0
  else
    restartAll app skipHealthChecks machines
    return machines.length

end LogDrain.Setup
