import Coordination.Settings.Basic
import Coordination.Text.Blank

/-!
# Valid settings

The values that the service cannot run with. They are looked for in the order of the settings,
and the first one found is reported.
-/

namespace Coordination

/-- A value that the service cannot run with. -/
inductive SettingsError where
  | blankInPrefix
  | noPollTimeout
  | noAnnounceRoom
  | noRedisUrl
  | noDatabaseUrl
  | noConnections
  | noPerformanceUrl
  | noPerformanceTimeout
  | nothingInFlight
  | unknownLevel (level : String)
deriving DecidableEq, Repr

/-- The levels that can be configured. -/
def configurableLevels : List String := ["trace", "debug", "info", "warn", "error"]

def SettingsError.message : SettingsError → String
  | blankInPrefix => "Channel prefix cannot contain whitespace"
  | noPollTimeout => "Bus poll timeout must be greater than zero"
  | noAnnounceRoom => "Announce room cannot be empty"
  | noRedisUrl => "Redis URL cannot be empty"
  | noDatabaseUrl => "Database URL cannot be empty"
  | noConnections => "Database max_connections must be greater than zero"
  | noPerformanceUrl => "Performance service URL cannot be empty"
  | noPerformanceTimeout => "Performance timeout must be greater than zero"
  | nothingInFlight => "Performance max_in_flight must be greater than zero"
  | unknownLevel level =>
    "Invalid log level: " ++ level ++ ". Must be one of: " ++ Text.quotedList configurableLevels

namespace Settings

/-- The first value that the service cannot run with. -/
def fault? (s : Settings) : Option SettingsError :=
  if s.bus.channelPrefix.toList.any Text.isBlank then some .blankInPrefix
  else if s.bus.pollTimeoutMs = 0 then some .noPollTimeout
  else if s.bus.announceRoom = "" then some .noAnnounceRoom
  else if s.redis.url = "" then some .noRedisUrl
  else if s.database.url = "" then some .noDatabaseUrl
  else if s.database.maxConnections = 0 then some .noConnections
  else if s.performance.baseUrl = "" then some .noPerformanceUrl
  else if s.performance.timeoutMs = 0 then some .noPerformanceTimeout
  else if s.performance.maxInFlight = some 0 then some .nothingInFlight
  else if s.logging.level ∉ configurableLevels then some (.unknownLevel s.logging.level)
  else none

/-- Settings that the service can run with. -/
def IsValid (s : Settings) : Prop := s.fault? = none

instance (s : Settings) : Decidable s.IsValid := inferInstanceAs (Decidable (s.fault? = none))

end Settings

end Coordination
