import Coordination.CommandLine.Basic
import Coordination.Text.ControlSequence

/-!
# Help

The text that explains the command line, in a short and a long form. Explanations stand under
their options, indented. The text is written for a terminal, with the words to be typed in bold;
what is shown elsewhere is the text without its control sequences. Those in a variable's value
are taken out with them.
-/

namespace Coordination.CommandLine

def versionText : String := "refx 0.1.0\n"

/-- What stands before each line of an explanation. -/
def helpIndent : String := "          "

/-- Puts text in bold on a terminal. -/
def bold (text : String) : String := "\x1b[1m" ++ text ++ "\x1b[0m"

/-- Puts text in bold and underlines it. -/
def heading (text : String) : String := "\x1b[1m\x1b[4m" ++ text ++ "\x1b[0m"

/-- An entry of the help text. -/
structure HelpEntry where
  short : Option Char := none
  long : String
  /-- What stands for the value. -/
  value : Option String := none
  summary : String
  /-- What the long form adds to the summary. -/
  details : List String := []
  /-- What stands for the option if it is not given. -/
  fallback : Option String := none

/-- How the variable of an option is shown. -/
def shownVariable (s : Setting) (env : Environment) : Option String :=
  s.variable?.map fun name => "[env: " ++ name ++ "=" ++ (s.fromEnvironment? env).getD "" ++ "]"

def helpEntries (long : Bool) (env : Environment) : List HelpEntry := [
  { short := some 'c', long := "config", value := some "CONFIG"
    summary := "Configuration file path"
    details := ["If the file doesn't exist, a default configuration is written there."]
    fallback := some ("[default: " ++ ({} : CommandLine).config ++ "]") },
  { short := some 'd', long := "debug", summary := "Enable debug logging" },
  { long := "json-logs", summary := "Output logs in JSON format" },
  { long := "redis-url", value := some "REDIS_URL"
    summary := "Redis URL used for pub/sub"
    fallback := shownVariable .redisUrl env },
  { long := "performance-url", value := some "PERFORMANCE_URL"
    summary := "Base URL of the performance service"
    fallback := shownVariable .performanceUrl env },
  { short := some 'h', long := "help"
    summary := if long then "Print help (see a summary with '-h')"
      else "Print help (see more with '--help')" },
  { short := some 'V', long := "version", summary := "Print version" }]

/-- How an option is written. -/
def HelpEntry.usage (e : HelpEntry) : String :=
  let short := match e.short with
    | some letter => "  " ++ bold (String.ofList ['-', letter]) ++ ", "
    | none => "      "
  let value := match e.value with
    | some value => " <" ++ value ++ ">"
    | none => ""
  short ++ bold ("--" ++ e.long) ++ value

/-- What is said about an option: in one line in the short form, and in paragraphs in the long
one. -/
def HelpEntry.explanation (e : HelpEntry) (long : Bool) : String :=
  if long then "\n\n".intercalate (e.summary :: e.details ++ e.fallback.toList)
  else " ".intercalate (e.summary :: e.fallback.toList)

/-- The option, and below it the explanation with each line indented. -/
def HelpEntry.text (e : HelpEntry) (long : Bool) : String :=
  e.usage ++ "\n" ++ helpIndent ++
    ("\n" ++ helpIndent).intercalate ((e.explanation long).splitOn "\n") ++ "\n"

/-- The help text as it is sent to a terminal. -/
def styledHelp (long : Bool) (env : Environment) : String :=
  let separator := if long then "\n" else ""
  "Coordination service: routes cross-process events to player directory handlers.\n\n" ++
    heading "Usage:" ++ " " ++ bold "refx" ++ " [OPTIONS]\n\n" ++ heading "Options:" ++ "\n" ++
    separator.intercalate ((helpEntries long env).map fun e => e.text long)

def helpText (long : Bool) (env : Environment) : String := Text.visible (styledHelp long env)

end Coordination.CommandLine
