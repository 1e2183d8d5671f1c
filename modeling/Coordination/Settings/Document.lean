import Coordination.Settings.Basic
import Coordination.Toml.Document
import Coordination.Toml.Fault

/-!
# Settings in a configuration file

A configuration file has a section per group of settings. What it does not mention keeps its
default, and what is not a setting is passed over. A section is usually a table; it may also be
an array of the values in their order.
-/

namespace Coordination

open Toml (Value)

namespace Settings

/-! ## Reading -/

/-- The entries of a table, each with its place in the text. -/
abbrev Entries := List (String × Toml.Place × Value)

/-- What a setting's value must be. -/
inductive Kind where
  | text
  /-- A number that is not negative. -/
  | count
  | flag
deriving DecidableEq, Repr

/-- The sections, with their settings in order. -/
def sections : List (String × List (String × Kind)) := [
  ("bus", [("channel_prefix", .text), ("poll_timeout_ms", .count), ("idle_delay_ms", .count),
    ("announce_room", .text)]),
  ("redis", [("url", .text)]),
  ("database", [("url", .text), ("max_connections", .count)]),
  ("performance", [("base_url", .text), ("timeout_ms", .count), ("max_in_flight", .count)]),
  ("logging", [("level", .text), ("json_format", .flag)])]

/-- The entries of a section. A date is a section that says nothing. -/
def sectionEntries (settings : List (String × Kind)) : Value → Option Entries
  | .table entries => some entries
  | .array values => some ((settings.map (·.1)).zip values)
  | .datetime => some []
  | _ => none

def text? : Value → Option String
  | .string s => some s
  | _ => none

def count? : Value → Option Nat
  | .integer n => if 0 ≤ n then some n.toNat else none
  | _ => none

def flag? : Value → Option Bool
  | .boolean b => some b
  | _ => none

def Kind.fits (k : Kind) (v : Value) : Bool :=
  match k with
  | .text => (text? v).isSome
  | .count => (count? v).isSome
  | .flag => (flag? v).isSome

/-- The place of the first value that is not one of its setting. -/
def unfit? (e : Entries) : Option Toml.Place :=
  e.findSome? fun (name, place, v) =>
    (sections.lookup name).bind fun settings =>
      match sectionEntries settings v with
      | none => some place
      | some inner => inner.findSome? fun (name, place, v) =>
          (settings.lookup name).bind fun kind => if kind.fits v then none else some place

/-- The value of a setting, or its default if it is not mentioned or does not fit. -/
def setting {α : Type} (e : Entries) (name : String) (read : Value → Option α) (default : α) : α :=
  ((e.lookup name).bind fun (_, v) => read v).getD default

/-- The entries of a section, of which there are none if it is not mentioned. -/
def sectionOf (e : Entries) (name : String) : Entries :=
  ((e.lookup name).bind fun (_, v) =>
    (sections.lookup name).bind fun settings => sectionEntries settings v).getD []

def readBus (e : Entries) : BusSettings :=
  let d : BusSettings := {}
  { channelPrefix := setting e "channel_prefix" text? d.channelPrefix
    pollTimeoutMs := setting e "poll_timeout_ms" count? d.pollTimeoutMs
    idleDelayMs := setting e "idle_delay_ms" count? d.idleDelayMs
    announceRoom := setting e "announce_room" text? d.announceRoom }

def readRedis (e : Entries) : RedisSettings :=
  let d : RedisSettings := {}
  { url := setting e "url" text? d.url }

def readDatabase (e : Entries) : DatabaseSettings :=
  let d : DatabaseSettings := {}
  { url := setting e "url" text? d.url
    maxConnections := setting e "max_connections" count? d.maxConnections }

def readPerformance (e : Entries) : PerformanceSettings :=
  let d : PerformanceSettings := {}
  { baseUrl := setting e "base_url" text? d.baseUrl
    timeoutMs := setting e "timeout_ms" count? d.timeoutMs
    maxInFlight := setting e "max_in_flight" (fun v => (count? v).map some) d.maxInFlight }

def readLogging (e : Entries) : LoggingSettings :=
  let d : LoggingSettings := {}
  { level := setting e "level" text? d.level
    jsonFormat := setting e "json_format" flag? d.jsonFormat }

/-- The settings of a document in which every value fits. -/
def ofEntries (e : Entries) : Settings where
  bus := readBus (sectionOf e "bus")
  redis := readRedis (sectionOf e "redis")
  database := readDatabase (sectionOf e "database")
  performance := readPerformance (sectionOf e "performance")
  logging := readLogging (sectionOf e "logging")

/-- Reads a configuration file. It must be a document, and the values of the settings must
fit. -/
def parse (text : String) : Except Toml.Fault Settings :=
  match Toml.parse text with
  | .error place => .error (.ofPlace text.toList place)
  | .ok t =>
    let e := Toml.entryValues t.entries
    match unfit? e with
    | some place => .error (.ofPlace text.toList place)
    | none => .ok (ofEntries e)

/-! ## Writing -/

/-- A string of a configuration file, which must need no escapes. -/
def plainText (s : String) : String := "\"" ++ s ++ "\""

/-- A section's header and entries, one to a line. -/
def renderSection (name : String) (entries : List (String × String)) : String :=
  String.join (("[" ++ name ++ "]\n") :: entries.map fun (key, value) => key ++ " = " ++ value ++ "\n")

/-- The file that says what the defaults say. What is absent by default is left out. -/
def renderDefault : String :=
  let d : Settings := {}
  "\n".intercalate [
    renderSection "bus" [
      ("channel_prefix", plainText d.bus.channelPrefix),
      ("poll_timeout_ms", toString d.bus.pollTimeoutMs),
      ("idle_delay_ms", toString d.bus.idleDelayMs),
      ("announce_room", plainText d.bus.announceRoom)],
    renderSection "redis" [("url", plainText d.redis.url)],
    renderSection "database" [
      ("url", plainText d.database.url),
      ("max_connections", toString d.database.maxConnections)],
    renderSection "performance" [
      ("base_url", plainText d.performance.baseUrl),
      ("timeout_ms", toString d.performance.timeoutMs)],
    renderSection "logging" [
      ("level", plainText d.logging.level),
      ("json_format", toString d.logging.jsonFormat)]]

end Settings

end Coordination
