/-
  API SETTINGS: where the two APIs are, who asks, and how long to wait.

  `Settings.read` takes them from an environment.  The access token comes from its own variable or,
  when that is empty or unset, from `FLY_ACCESS_TOKEN`; one of the two has to be filled.  The bases
  have defaults and lose the slashes at their end.  The time limit is a number of seconds, 30 unless
  it is set.  A missing token is found before a time limit that is no number.
-/
import LogDrain.Decimal.Numeral
import LogDrain.Environment

namespace LogDrain

open Decimal (Binary64)

/-- What the two APIs need to be asked. -/
structure Settings where
  accessToken : String
  apiBase : String
  machinesBase : String
  timeout : Binary64

/-- The names of the variables that settings are read from. -/
structure SettingNames where
  token : String
  apiBase : String
  machinesBase : String
  timeout : String

/-- The usual names. -/
def SettingNames.usual : SettingNames :=
  { token := "FLY_API_TOKEN", apiBase := "FLY_API_BASE_URL", machinesBase := "FLY_FLAPS_BASE_URL",
    timeout := "FLY_API_TIMEOUT_SECONDS" }

/-- What can be wrong with the environment; each names the variable. -/
inductive SettingsFault where
  | missingToken (name : String)
  | invalidTimeout (name : String)
  deriving DecidableEq, Repr

/-- The fault in words. -/
def SettingsFault.message : SettingsFault → String
  | .missingToken name =>
    s!"Missing required environment variable: {name} (or FLY_ACCESS_TOKEN)"
  | .invalidTimeout name => s!"Invalid {name}; must be a number"

namespace Settings

/-- The base of the GraphQL API unless it is set. -/
def defaultApiBase : String := "https://api.fly.io"

/-- The base of the Machines API unless it is set. -/
def defaultMachinesBase : String := "https://api.machines.dev"

/-- The time limit unless it is set, in seconds. -/
def defaultTimeout : Binary64 := .ofDecimal false 30 0

/-- The address of the GraphQL API. -/
def graphqlUrl (settings : Settings) : String := settings.apiBase ++ "/graphql"

/-- A base address: the variable's value or the default, without slashes at the end. -/
def readBase (env : Environment) (name fallback : String) : String :=
  Text.dropTrailing '/' ((env.filled? name).getD fallback)

/-- The time limit. -/
def readTimeout (env : Environment) (name : String) : Except SettingsFault Binary64 :=
  match env.filled? name with
  | none => .ok defaultTimeout
  | some written =>
    match Decimal.Numeral.read? written with
    | some seconds => .ok seconds
    | none => .error (.invalidTimeout name)

/-- The settings that the environment holds under the given names. -/
def read (names : SettingNames) (env : Environment) : Except SettingsFault Settings :=
  match (env.filled? names.token).or (env.filled? "FLY_ACCESS_TOKEN") with
  | none => .error (.missingToken names.token)
  | some token => do
    let timeout ← readTimeout env names.timeout
    return { accessToken := Text.trim token
             apiBase := readBase env names.apiBase defaultApiBase
             machinesBase := readBase env names.machinesBase defaultMachinesBase
             timeout }

/-! ## The fallback variable, and which fault comes first -/

example : (read .usual (.ofPairs [("FLY_ACCESS_TOKEN", " legacy\n")])).toOption.map
    (·.accessToken) = some "legacy" := by decide +kernel
example : read .usual (.ofPairs [("FLY_API_TIMEOUT_SECONDS", "x")]) =
    .error (.missingToken "FLY_API_TOKEN") := rfl
example : (read .usual (.ofPairs [("FLY_API_TOKEN", "t"), ("FLY_API_BASE_URL", "//")])).toOption.map
    (·.graphqlUrl) = some "/graphql" := by decide +kernel

end Settings

end LogDrain
