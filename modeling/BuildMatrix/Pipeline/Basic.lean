import BuildMatrix.Failure
import BuildMatrix.Job.Basic

namespace BuildMatrix

-- The producer has to finish and publish before the consumer starts.
structure Edge where
  producer : String
  consumer : String
  artifacts : List String
deriving DecidableEq, Repr

-- Nothing is assumed about the edges of a pipeline made by hand: they may
-- repeat, form a cycle, or name jobs that it does not have.
structure Pipeline where
  jobs : List Job
  edges : List Edge
deriving Inhabited

structure ArtifactUse where
  artifact : String
  job : String
deriving DecidableEq, Repr

namespace Job

def publications (job : Job) : List ArtifactUse := job.publishes.map fun a => ⟨a.name, job.name⟩
def requirements (job : Job) : List ArtifactUse := job.requires.map fun a => ⟨a.name, job.name⟩

end Job

namespace Pipeline

def names (pipeline : Pipeline) : List String := pipeline.jobs.map Job.name

def job? (pipeline : Pipeline) (name : String) : Option Job :=
  pipeline.jobs.find? fun job => job.name == name

def job (pipeline : Pipeline) (name : String) : Except Failure Job :=
  match pipeline.job? name with
  | some job => .ok job
  | none => .error (.unknownJob name)

def dependenciesOf (pipeline : Pipeline) (name : String) : List String :=
  (pipeline.edges.filter fun edge => edge.consumer == name).map Edge.producer

def dependentsOf (pipeline : Pipeline) (name : String) : List String :=
  (pipeline.edges.filter fun edge => edge.producer == name).map Edge.consumer

-- Of several producers of one artifact the last counts.
def artifactProducers (pipeline : Pipeline) : Mapping String :=
  .ofList ((pipeline.jobs.flatMap Job.publications).map fun use => (use.artifact, use.job))

end Pipeline
end BuildMatrix
