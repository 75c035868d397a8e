import ThumbDrive.Json.Document
import ThumbDrive.Text.Blank

/-! Configuration of permission requests.

Settings come from the environment, then from the plug-in's configuration, then from defaults.
What the environment gives but cannot be read counts as not given. -/
namespace ThumbDrive

/-- How the answer to a permission request is awaited. -/
inductive WaitStrategy where
  /-- By a notification. -/
  | event
  /-- By asking again and again. -/
  | poll
  deriving DecidableEq, Repr

namespace WaitStrategy

/-- The name of a strategy. -/
def name : WaitStrategy → String
  | .event => "event"
  | .poll => "poll"

/-- The strategy of that very name. -/
def ofName? (s : String) : Option WaitStrategy :=
  if s = "event" then some .event else if s = "poll" then some .poll else none

/-- The strategy an environment variable names: blanks around it and case do not matter. -/
def ofVariable? (s : String) : Option WaitStrategy :=
  ofName? (String.ofList ((Text.trim s).toList.map Text.lowerAscii))

/-- A strategy in JSON: its name, or an object with the name as only key and null as its value. -/
def ofJson? : Json → Option WaitStrategy
  | .str s => ofName? s
  | .obj [(s, .null)] => ofName? s
  | _ => none

end WaitStrategy

/-- The plug-in's part of the application's configuration; every setting is optional. -/
structure PluginConfig where
  timeoutMs : Option UInt64 := none
  pollMs : Option UInt64 := none
  strategy : Option WaitStrategy := none
  deriving DecidableEq, Repr

namespace PluginConfig

/-- The names of the settings. -/
def fieldNames : List String := ["permissionTimeoutMs", "pollIntervalMs", "waitStrategy"]

/-- A configuration from the values of its fields. -/
def ofFields? : List Json → Option PluginConfig
  | [timeout, poll, strategy] => do
      return {
        timeoutMs := ← timeout.optional? Json.uint64?
        pollMs := ← poll.optional? Json.uint64?
        strategy := ← strategy.optional? WaitStrategy.ofJson? }
  | _ => none

/-- A configuration from a JSON value. -/
def ofJson? (j : Json) : Option PluginConfig := do ofFields? (← j.record? fieldNames)

/-- A configuration from a JSON text. -/
def parse? (s : String) : Option PluginConfig := do
  ofFields? (← (← Json.Document.parse? s).record? fieldNames)

end PluginConfig

/-- The environment variables that matter, where they are set. -/
structure Environment where
  timeout : Option String := none
  poll : Option String := none
  strategy : Option String := none

/-- The configuration in force. -/
structure Config where
  /-- How long a permission dialog may stay unanswered. -/
  timeoutMs : UInt64
  /-- How long to wait between two polls. -/
  pollMs : UInt64
  strategy : WaitStrategy
  deriving DecidableEq, Repr

namespace Config

/-- What holds when nothing is set. -/
def default : Config := ⟨30000, 500, .event⟩

/-- Resolves every setting: environment, then plug-in, then default. A poll interval of zero,
whoever sets it, gives way to the default. -/
def resolve (env : Environment) (plugin : PluginConfig) : Config where
  timeoutMs := ((env.timeout.bind Decimal.readUInt64?).or plugin.timeoutMs).getD default.timeoutMs
  pollMs :=
    (((env.poll.bind Decimal.readUInt64?).or plugin.pollMs).filter (0 < ·)).getD default.pollMs
  strategy :=
    ((env.strategy.bind WaitStrategy.ofVariable?).or plugin.strategy).getD default.strategy

/-- The JSON form. -/
def toJson (c : Config) : Json :=
  .obj [("permissionTimeoutMs", .nat c.timeoutMs.toNat), ("pollIntervalMs", .nat c.pollMs.toNat),
    ("waitStrategy", .str c.strategy.name)]

end Config
end ThumbDrive
