import Coordination.CommandLine.Basic
import Coordination.Log.Output

/-!
# Logging as it is configured

The environment's filter comes before the configured level. Until the settings are known, the
command line alone says what is logged.
-/

namespace Coordination

/-- The output that the settings ask for. -/
def LoggingSettings.output (s : LoggingSettings) (env : Environment) : LogOutput where
  filter := .ofEnvironment env s.level
  jsonFormat := s.jsonFormat

/-- The output before the settings are known. -/
def CommandLine.output (c : CommandLine) (env : Environment) : LogOutput where
  filter := .ofEnvironment env (if c.debug then "debug" else "info")
  jsonFormat := c.jsonLogs

end Coordination
