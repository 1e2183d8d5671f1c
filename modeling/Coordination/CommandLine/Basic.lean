import Coordination.Environment
import Coordination.Settings.Basic

/-!
# The command line

Words are read from left to right. An option takes its value from its own word or from the next
one; its value is judged only when the option is settled, which is when the next option or
switch is met or the words end. The first fault ends the reading, and so does a request for help
or for the version.
-/

namespace Coordination

/-- What the command line says. -/
structure CommandLine where
  config : String := "config.toml"
  debug : Bool := false
  jsonLogs : Bool := false
  redisUrl : Option String := none
  performanceUrl : Option String := none
deriving DecidableEq, Repr

def CommandLine.overrides (c : CommandLine) : Overrides where
  redisUrl := c.redisUrl
  performanceUrl := c.performanceUrl
  debug := c.debug
  jsonLogs := c.jsonLogs

namespace CommandLine

/-- What takes a value. -/
inductive Setting where
  | config
  | redisUrl
  | performanceUrl
deriving DecidableEq, Repr

/-- What takes no value. -/
inductive Switch where
  | debug
  | jsonLogs
  | help
  | version
deriving DecidableEq, Repr

inductive Name where
  | setting (s : Setting)
  | switch (s : Switch)
deriving DecidableEq, Repr

/-- What two dashes and a word name. -/
def longName? : String → Option Name
  | "config" => some (.setting .config)
  | "redis-url" => some (.setting .redisUrl)
  | "performance-url" => some (.setting .performanceUrl)
  | "debug" => some (.switch .debug)
  | "json-logs" => some (.switch .jsonLogs)
  | "help" => some (.switch .help)
  | "version" => some (.switch .version)
  | _ => none

/-- What a dash and a letter name. -/
def shortName? : Char → Option Name
  | 'c' => some (.setting .config)
  | 'd' => some (.switch .debug)
  | 'h' => some (.switch .help)
  | 'V' => some (.switch .version)
  | _ => none

inductive UsageError where
  | unknownArgument
  /-- A value is missing, or is not one. -/
  | invalidValue
  /-- A switch was given a value. -/
  | tooManyValues
  /-- Something was said twice. -/
  | argumentConflict
deriving DecidableEq, Repr

/-- Why the reading ends before the words do. -/
inductive Stop where
  | error (e : UsageError)
  | help (long : Bool)
  | version
deriving DecidableEq, Repr

/-- What has been read. -/
structure Progress where
  config : Option String := none
  redisUrl : Option String := none
  performanceUrl : Option String := none
  debug : Bool := false
  jsonLogs : Bool := false
  /-- The option that is not settled, with its value if it has been met. -/
  pending : Option (Setting × Option String) := none

namespace Progress

def value? (p : Progress) : Setting → Option String
  | .config => p.config
  | .redisUrl => p.redisUrl
  | .performanceUrl => p.performanceUrl

/-- Settles an option. The name of a file must not be empty. -/
def settle (p : Progress) (s : Setting) (value : String) : Except Stop Progress :=
  if (p.value? s).isSome then .error (.error .argumentConflict)
  else
    match s with
    | .config =>
      if value = "" then .error (.error .invalidValue) else .ok { p with config := some value }
    | .redisUrl => .ok { p with redisUrl := some value }
    | .performanceUrl => .ok { p with performanceUrl := some value }

/-- Settles the pending option, which must have its value by now. -/
def settlePending (p : Progress) : Except Stop Progress :=
  match p.pending with
  | none => .ok p
  | some (_, none) => .error (.error .invalidValue)
  | some (s, some value) => { p with pending := none }.settle s value

/-- Meets an option, with its value if that is in the same word. -/
def meetSetting (p : Progress) (s : Setting) (attached : Option String) : Except Stop Progress :=
  p.settlePending.bind fun p =>
    match attached with
    | some value => p.settle s value
    | none => .ok { p with pending := some (s, none) }

/-- Meets a switch. -/
def meetSwitch (p : Progress) (s : Switch) (long : Bool) : Except Stop Progress :=
  p.settlePending.bind fun p =>
    match s with
    | .debug => if p.debug then .error (.error .argumentConflict) else .ok { p with debug := true }
    | .jsonLogs =>
      if p.jsonLogs then .error (.error .argumentConflict) else .ok { p with jsonLogs := true }
    | .help => .error (.help long)
    | .version => .error .version

/-- Meets a word that starts with two dashes, which are taken off. -/
def meetLong (p : Progress) (word : List Char) : Except Stop Progress :=
  let (name, attached) := match word.span (· ≠ '=') with
    | (name, []) => (name, none)
    | (name, _ :: value) => (name, some (String.ofList value))
  match longName? (String.ofList name), attached with
  | none, _ => .error (.error .unknownArgument)
  | some (.setting s), attached => p.meetSetting s attached
  | some (.switch _), some _ => .error (.error .tooManyValues)
  | some (.switch s), none => p.meetSwitch s true

/-- Meets the letters after a dash. An option takes the rest of them as its value, without an
equals sign at the front. -/
def meetShort (p : Progress) : List Char → Except Stop Progress
  | [] => .ok p
  | letter :: rest =>
    match shortName? letter with
    | none => .error (.error .unknownArgument)
    | some (.switch s) => (p.meetSwitch s false).bind fun p => p.meetShort rest
    | some (.setting s) =>
      p.meetSetting s <| match rest with
        | [] => none
        | '=' :: value => some (String.ofList value)
        | value => some (String.ofList value)

/-- Meets a word that is no option: the value of the pending one, if it lacks one. -/
def meetValue (p : Progress) (word : String) : Except Stop Progress :=
  match p.pending with
  | some (s, none) => .ok { p with pending := some (s, some word) }
  | _ => .error (.error .unknownArgument)

/-- Reads the words. After two dashes alone no word is welcome. -/
def readWords (p : Progress) : List String → Except Stop Progress
  | [] => p.settlePending
  | word :: words =>
    match word.toList with
    | ['-', '-'] =>
      match words with
      | [] => p.settlePending
      | _ => .error (.error .unknownArgument)
    | '-' :: '-' :: name => (p.meetLong name).bind fun p => p.readWords words
    | '-' :: c :: letters => (p.meetShort (c :: letters)).bind fun p => p.readWords words
    | _ => (p.meetValue word).bind fun p => p.readWords words

end Progress

/-- The variable that stands in for an option. -/
def Setting.variable? : Setting → Option String
  | .config => none
  | .redisUrl => some "REFX_REDIS_URL"
  | .performanceUrl => some "REFX_PERFORMANCE_URL"

/-- The value of the variable that stands in for an option. -/
def Setting.fromEnvironment? (s : Setting) (env : Environment) : Option String :=
  s.variable?.bind env.value?

/-- Reads the command line. The environment stands in for options that were not given. -/
def parse (words : List String) (env : Environment) : Except Stop CommandLine :=
  (Progress.readWords {} words).map fun p =>
    let value (s : Setting) : Option String := (p.value? s).or (s.fromEnvironment? env)
    { config := p.config.getD ({} : CommandLine).config
      debug := p.debug
      jsonLogs := p.jsonLogs
      redisUrl := value .redisUrl
      performanceUrl := value .performanceUrl }

end CommandLine

end Coordination
