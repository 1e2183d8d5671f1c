import Coordination.Score.Address
import Coordination.Service.Run
import Coordination.Settings.Basic

/-!
# Assembling the service

The service's parts are made from the settings. Nothing is connected yet: only the addresses are
looked at.
-/

namespace Coordination

/-- Why the parts cannot be made. -/
inductive AssemblyError where
  | database
  | performance (e : ComputeError)

def AssemblyError.message : AssemblyError → String
  | database => "creating score database pool"
  | performance _ => "creating performance service client"

/-- The parts that the service works with. -/
structure Assembly where
  database : DatabaseAddress
  client : ComputeClient
  fanout : Fanout
  directory : Directory

namespace Settings

/-- The directory that the service starts with: nobody is known, and the announce room is
there. -/
def directory (s : Settings) : Directory := ({} : Directory).createRoom s.bus.announceRoom

/-- Makes the parts, with the performance service on `server`. -/
def assemble (s : Settings) (server : Server) : Except AssemblyError Assembly :=
  match DatabaseAddress.ofText? s.database.url with
  | none => .error .database
  | some database =>
    match ComputeClient.new s.computeConfig server with
    | .error e => .error (.performance e)
    | .ok client => .ok { database, client, fanout := s.fanout, directory := s.directory }

/-- The service that is run. -/
def service (s : Settings) : Service where
  deployment := s.deployment
  announceRoom := s.bus.announceRoom
  pace := s.pace

end Settings

end Coordination
