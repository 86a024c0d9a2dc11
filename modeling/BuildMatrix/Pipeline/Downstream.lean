import BuildMatrix.Pipeline.Basic

namespace BuildMatrix

def edgesFrom (sources : List String) (edges : List Edge) : List Edge :=
  edges.filter fun edge => sources.contains edge.producer

def edgesElsewhere (sources : List String) (edges : List Edge) : List Edge :=
  edges.filter fun edge => !sources.contains edge.producer

-- The consumers met on the way out of a set of names. Every edge is followed
-- once at most, so cycles and repeated edges do no harm.
def reached (edges : List Edge) (sources : List String) : List String :=
  if _fewer : (edgesElsewhere sources edges).length < edges.length then
    let met := (edgesFrom sources edges).map Edge.consumer
    met ++ reached (edgesElsewhere sources edges) met
  else []
termination_by edges.length

namespace Pipeline

-- The jobs that cannot run when the named one fails, in pipeline order. A job
-- is its own dependent only by way of a cycle.
def transitiveDependents (pipeline : Pipeline) (name : String) : Except Failure (List String) := do
  let _ ← pipeline.job name
  let downstream := reached pipeline.edges [name]
  return pipeline.names.filter downstream.contains

end Pipeline
end BuildMatrix
