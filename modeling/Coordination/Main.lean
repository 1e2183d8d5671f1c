import Coordination.CommandLine.Help
import Coordination.Service.Assembly
import Coordination.Service.Broker
import Coordination.Settings.Loading
import Coordination.Settings.Logging
import Coordination.Settings.Validation

/-!
# The program

Reads the command line, the environment and the configuration file, and takes the service as far
as its connection to the broker. The library has no network, so the broker is one that cannot be
reached.
-/

namespace Coordination.Program

/-- The environment as far as the program reads it. -/
def readEnvironment : IO Environment := do
  let names := ["REFX_REDIS_URL", "REFX_PERFORMANCE_URL", "RUST_LOG"]
  let bindings ← names.filterMapM fun name => do
    return (← IO.getEnv name).map fun value => (name, value)
  return ⟨bindings⟩

/-- The disk as far as a path shows it. Where nothing is found, the directory is taken to be
there: writing fails otherwise. -/
def readDisk (path : String) : IO Disk := do
  match DiskPath.ofText path with
  | .error _ => return {}
  | .ok parsed =>
    try
      let content ← IO.FS.readBinFile path
      return .along parsed (some (.file content))
    catch
      | .noFileOrDirectory .. => return .along parsed none
      | _ => return .along parsed (some .directory)

/-- Shows what is logged. -/
def report (o : LogOutput) (target : String) (lines : List LogLine) : IO Unit :=
  for line in lines do
    for text in o.line? "main" { target, line } do
      IO.println text

def fail (message : String) : IO UInt32 := do
  IO.eprintln ("Error: " ++ message)
  return 1

/-- Runs the service with its settings. -/
def serve (settings : Settings) (output : LogOutput) (config : String) : IO UInt32 := do
  report output "refx" [⟨.info, "Starting refx v0.1.0 (config: " ++ config ++ ")"⟩]
  match settings.assemble .unreachable with
  | .error e => fail e.message
  | .ok parts =>
    let service := settings.service
    match service.runBroker service.bus settings.redis.url .unreachable
        { directory := parts.directory } with
    | .error e => fail e.message
    | .ok r =>
      report output "refx_server::app" r.log
      return 0

/-- Does what the command line asks for. -/
def run (c : CommandLine) (env : Environment) : IO UInt32 := do
  let disk ← readDisk c.config
  let loading := Settings.load disk c
  if (disk.at? c.config).isNone then
    if let some content := loading.disk.file? c.config then
      IO.FS.writeBinFile c.config content
  report (c.output env) Settings.loadingTarget loading.log
  match loading.result with
  | .error e => fail (e.message?.getD "malformed configuration file")
  | .ok settings =>
    match settings.fault? with
    | some e => fail ("Configuration validation failed: " ++ e.message)
    | none => serve settings (settings.logging.output env) c.config

end Coordination.Program

open Coordination in
def main (args : List String) : IO UInt32 := do
  let env ← Program.readEnvironment
  match CommandLine.parse args env with
  | .ok c => Program.run c env
  | .error (.help long) =>
    IO.print (CommandLine.helpText long env)
    return 0
  | .error .version =>
    IO.print CommandLine.versionText
    return 0
  | .error (.error _) =>
    IO.eprintln "error: the command line is not understood\n\nFor more information, try '--help'."
    return 2
