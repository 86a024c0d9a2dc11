import BuildMatrix.Pipeline.Basic

namespace BuildMatrix

structure Peeling where
  levels : List (List String)
  stuck : List String
deriving DecidableEq, Repr

def waits (edges : List Edge) (name : String) : Bool := edges.any fun edge => edge.consumer == name

def ready (edges : List Edge) (names : List String) : List String :=
  names.filter fun name => !waits edges name

def blocked (edges : List Edge) (names : List String) : List String := names.filter (waits edges)

-- Takes off the names that no edge leads to, and with them the edges that
-- leave them, until nothing more comes off.
def peel (edges : List Edge) (names : List String) : Peeling :=
  if _fewer : (blocked edges names).length < names.length then
    let rest := peel (edges.filter fun edge => (blocked edges names).contains edge.producer)
      (blocked edges names)
    ⟨ready edges names :: rest.levels, rest.stuck⟩
  else ⟨[], names⟩
termination_by names.length

def firstSeen (names : List String) : List String := names.eraseDups
def lastSeen (names : List String) : List String := names.reverse.eraseDups.reverse

namespace Pipeline

def edgeEnds (pipeline : Pipeline) : List String :=
  pipeline.edges.flatMap fun edge => [edge.producer, edge.consumer]

-- Stages of jobs that may run side by side. Within a stage a name stands where
-- the last job of that name stands in the pipeline.
def levels (pipeline : Pipeline) : Except Failure (List (List String)) :=
  match pipeline.edgeEnds.find? fun name => !pipeline.names.contains name with
  | some name => .error (.unknownJob name)
  | none =>
      let peeled := peel pipeline.edges (lastSeen pipeline.names)
      if peeled.stuck.isEmpty then .ok peeled.levels
      else .error (.cyclic ((firstSeen pipeline.names).filter peeled.stuck.contains))

end Pipeline
end BuildMatrix
