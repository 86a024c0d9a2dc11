import BuildMatrix.Json.Writer
import BuildMatrix.Pipeline.Basic

namespace BuildMatrix

namespace Download

def record (download : Download) : Value := .table [
  ("name", .text download.name),
  ("version", .text download.version),
  ("platformspecific", .bool download.platformSpecific)]

end Download

def Docker.record (docker : Docker) : Value := .table [
  ("image", .text docker.image),
  ("mount_modules", .bool docker.mountModules)]

def PublishedArtifact.record (artifact : PublishedArtifact) : Value := .table [
  ("name", .text artifact.name),
  ("dir", .text artifact.dir),
  ("patterns", .texts artifact.patterns)]

def optionalRow (key : String) (value : Option Value) : List (String × Value) :=
  (value.map fun given => (key, given)).toList

def RequiredArtifact.record (artifact : RequiredArtifact) : Value := .table (
  [("name", .text artifact.name), ("dir", .text artifact.dir)]
  ++ optionalRow "autoExtract" (artifact.autoExtract.map .bool))

def Mapping.record {α : Type} (mapping : Mapping α) (write : α → Value) : Value :=
  .table (mapping.rows.map fun row => (row.1, write row.2))

-- The record of a job as the engine consumes it. What a job leaves open is left
-- out. Its kind and its machine are not part of it.
def Job.record (job : Job) : Except Failure Value := do
  let run ← job.run.mapM Value.walked
  let setup ← job.setup.mapM Value.walked
  return .table (
    [("name", .text job.name),
      ("timelimit", job.timelimit),
      ("logs", .texts job.logs),
      ("targets", .texts job.targets),
      ("run", .list run),
      ("publishArtifacts", .list (job.publishes.map PublishedArtifact.record)),
      ("requireArtifacts", .list (job.requires.map RequiredArtifact.record)),
      ("environment", job.environment.record .text),
      ("downloads", job.downloads.record Download.record),
      ("packages", job.packages.record .text),
      ("capabilities", .texts job.capabilities)]
    ++ optionalRow "diskspace_required" (job.diskspaceRequired.map .text)
    ++ optionalRow "setup" (if setup.isEmpty then none else some (.list setup))
    ++ optionalRow "docker" (job.docker.map Docker.record)
    ++ optionalRow "python_version" (job.pythonVersion.map .text))

def Edge.record (edge : Edge) : Value := .table [
  ("producer", .text edge.producer),
  ("consumer", .text edge.consumer),
  ("artifacts", .texts edge.artifacts)]

namespace Pipeline

def record (pipeline : Pipeline) : Except Failure Value := do
  let builds ← pipeline.jobs.mapM Job.record
  return .table [
    ("builds", .list builds),
    ("dependencies", .list (pipeline.edges.map Edge.record))]

def descriptor (pipeline : Pipeline) (layout : Json.Layout) : Except Failure String := do
  return Json.document layout (← pipeline.record)

end Pipeline
end BuildMatrix
