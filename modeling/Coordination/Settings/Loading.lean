import Coordination.CommandLine.Basic
import Coordination.Disk
import Coordination.Log.Basic
import Coordination.Settings.Document

/-!
# Loading the settings

The settings come from the file that the command line names. If there is no such file, one that
says the defaults is written. Then the command line is put on top.
-/

namespace Coordination

/-- Why there are no settings. -/
inductive LoadError where
  /-- The file is there but is no text. -/
  | unreadable (path : String)
  /-- The file's text says no settings. -/
  | malformed
  | unwritable (e : DiskError)
deriving DecidableEq, Repr

/-- What a reader is told, unless it is what the format says about the text. -/
def LoadError.message? : LoadError → Option String
  | unreadable path => some ("reading " ++ path)
  | malformed => none
  | unwritable e => some e.message

/-- What loading comes to. -/
structure Loading where
  result : Except LoadError Settings
  /-- The disk afterwards. -/
  disk : Disk
  log : List LogLine := []

namespace Settings

/-- The part of the program that what is logged about loading comes from. -/
def loadingTarget : String := "refx_server::config"

/-- The text of a file whose bytes are UTF-8. -/
def textAt? (disk : Disk) (path : String) : Option String :=
  (disk.file? path).bind String.fromUTF8?

/-- How it is said that a file cannot be read as settings. -/
def parseFailure (path : String) : String := "Failed to parse config file " ++ path

/-- Reads the file at a path where something is. -/
def read (disk : Disk) (path : String) : Loading :=
  match textAt? disk path with
  | none => { result := .error (.unreadable path), disk }
  | some text =>
    match parse text with
    | .ok settings => { result := .ok settings, disk }
    | .error f =>
      { result := .error .malformed, disk
        log := [⟨.warn, parseFailure path ++ ": " ++ f.message⟩] }

/-- Writes the defaults to a path where nothing is. -/
def create (disk : Disk) (path : String) : Loading :=
  let missing : LogLine :=
    ⟨.warn, "Configuration file not found: " ++ path ++ ", using defaults"⟩
  match disk.write path renderDefault.toUTF8 with
  | .error e => { result := .error (.unwritable e), disk, log := [missing] }
  | .ok disk =>
    { result := .ok {}, disk
      log := [missing, ⟨.info, "Created default configuration file: " ++ path⟩] }

/-- Loads the settings that the command line asks for. -/
def load (disk : Disk) (c : CommandLine) : Loading :=
  let loading :=
    if (disk.at? c.config).isSome then read disk c.config else create disk c.config
  { loading with result := loading.result.map (·.override c.overrides) }

end Settings

end Coordination
