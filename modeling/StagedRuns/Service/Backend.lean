import StagedRuns.Client.Engine
import StagedRuns.Client.SourceHost

/-!
What the service asks of others: the files of repositories, volumes, and runs.
-/

namespace StagedRuns

structure Backend (m : Type → Type) where
  fileContents : (repository path ref : String) → m (Except ClientError (List UInt8))
  createVolume : (size : String) → m (Except ClientError String)
  createRun : Run → m (Except ClientError Run)

namespace Backend

variable {m : Type → Type} [Monad m]

def remote (transport : Http.Transport m) (engine : EngineClient) (host : SourceHostClient) :
    Backend (Client.Calling m) where
  fileContents := host.fileContents transport
  createVolume := engine.createVolume transport
  createRun := engine.createRun transport

end Backend

end StagedRuns
