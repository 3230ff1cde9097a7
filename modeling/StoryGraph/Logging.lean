import StoryGraph.Settings

/-!
# Logging

How the library's logger is set up.  A handler is added only when the host has
none, so that a host keeps its own arrangements.

This embeds `configure_logging`.
-/

namespace StoryGraph

/-- The logger and the handlers that its set-up adds. -/
structure Logger where
  name : String
  level : Nat
  formats : List String
  deriving DecidableEq

namespace Logger

def levels : List (String × Nat) :=
  [("CRITICAL", 50), ("FATAL", 50), ("ERROR", 40), ("WARN", 30),
    ("WARNING", 30), ("INFO", 20), ("DEBUG", 10), ("NOTSET", 0)]

def lineFormat : String := "[%(levelname)s] %(name)s: %(message)s"

def unknownLevelMessage (level : String) : String :=
  "Unknown log level: " ++ level

/-- The logger for the level of the settings; an unknown level is the error. -/
def configure (settings : Settings)
    (hostHasHandler : Bool) : Except String Logger :=
  match levels.lookup settings.logLevel with
  | some level =>
    .ok ⟨"eventgraph", level, if hostHasHandler then [] else [lineFormat]⟩
  | none => .error (unknownLevelMessage settings.logLevel)

end Logger

end StoryGraph
