/-
  THE ENVIRONMENT: named values that settings are read from.

  A value that is set but empty counts as none (`filled?`).
-/
import LogDrain.Log
import LogDrain.Text.Blank
import LogDrain.Text.LowerCase

namespace LogDrain

/-- The value of every variable that is set. -/
abbrev Environment := String → Option String

namespace Environment

/-- The environment of the given pairs, the first one of a name counting. -/
def ofPairs (pairs : List (String × String)) : Environment := fun name => pairs.lookup name

/-- The value of a variable that is set and not empty. -/
def filled? (env : Environment) (name : String) : Option String :=
  (env name).filter (· ≠ "")

/-- The words that switch a setting on. -/
def onWords : List String := ["1", "true", "yes", "on"]

/-- The level from which lines are shown: all of them when debugging is switched on. -/
def logThreshold (env : Environment) : LogLevel :=
  if onWords.contains (Text.lower (Text.trim ((env "LOG_SHIPPER_DEBUG").getD ""))) then .debug
  else .info

end Environment

end LogDrain
