import BuildMatrix.Matrix.Default
import BuildMatrix.Pipeline.Resolve

namespace BuildMatrix

namespace Pipeline

-- Kinds in pipeline order; jobs of one kind stay in the order they came in.
def arrange (groups : List (JobKind × List Job)) : List Job :=
  JobKind.pipelineOrder.flatMap fun kind =>
    (groups.filter fun group => group.1 == kind).flatMap Prod.snd

def assemble (groups : List (Value × List Job)) : Except Failure Pipeline := do
  let known ← groups.mapM fun group => do return (← JobKind.ofValue group.1, group.2)
  resolve (arrange known)

def generate (registry : Option Registry) (matrices : Option (List Matrix))
    (settings : Option Settings) : Except Failure Pipeline := do
  let builder := Builder.make settings registry
  let groups ← jobsByKind builder (matrices.getD Matrix.defaults)
  resolve (arrange groups)

end Pipeline
end BuildMatrix
