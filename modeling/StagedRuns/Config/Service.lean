import StagedRuns.Config.Connection
import StagedRuns.Service.Delivery

/-!
The settings of the service that receives deliveries.
-/

namespace StagedRuns.Config

structure Service where
  bindAddress : String
  connection : Connection
  settings : ServiceSettings
deriving DecidableEq, Repr

namespace Service

def ofEnvironment (environment : Environment) : Except ConfigError Service := do
  let archiverImage ← needed environment "ARCHIVER_IMAGE"
  let archiveUrl ← needed environment "ARCHIVE_URL"
  return {
    bindAddress := valueOr environment "STAGECOACH_BIND_ADDR" "0.0.0.0:8080"
    connection := Connection.ofEnvironment environment
    settings :=
      { plan :=
          { archiverImage, archiveUrl
            runPrefix := valueOr environment "PIPELINERUN_PREFIX" "test-pipelinerun-"
            serviceAccount := valueOr environment "PIPELINERUN_SERVICE_ACCOUNT" "default"
            volumeSize := valueOr environment "PIPELINERUN_VOLUME_SIZE" "1Gi" }
        pipelineFile := valueOr environment "PIPELINE_FILENAME" ".tekton_ci.yaml"
        definitionFile :=
          valueOr environment "DEFINITION_FILENAME" ".tekton/pull_request.yaml" } }

def check (config : Service) : Except ConfigError Unit := do
  config.connection.checkHost
  config.connection.checkEngine
  checkPresent "archiver_image" config.settings.plan.archiverImage
  checkPresent "archive_url" config.settings.plan.archiveUrl
  config.connection.checkSpace

end Service

end StagedRuns.Config
