import BuildMatrix.Pipeline.Levels

namespace BuildMatrix

def repeatedNames (names : List String) : List String :=
  ((names.filter fun name => decide (1 < names.count name)).eraseDups).mergeSort
    fun a b => decide (a ≤ b)

def firstRepetition? (earlier : List ArtifactUse) :
    List ArtifactUse → Option (ArtifactUse × ArtifactUse)
  | [] => none
  | use :: rest =>
      match earlier.find? fun before => before.artifact == use.artifact with
      | some before => some (before, use)
      | none => firstRepetition? (earlier ++ [use]) rest

def producerOf? (publications : List ArtifactUse) (artifact : String) : Option String :=
  (publications.find? fun use => use.artifact == artifact).map ArtifactUse.job

structure Link where
  producer : String
  consumer : String
  artifact : String
deriving DecidableEq, Repr

def Link.ends (link : Link) : String × String := (link.producer, link.consumer)

def linkOf (publications : List ArtifactUse) (requirement : ArtifactUse) : Except Failure Link :=
  match producerOf? publications requirement.artifact with
  | some producer => .ok ⟨producer, requirement.job, requirement.artifact⟩
  | none =>
      .error (.unpublishedArtifact requirement.job requirement.artifact
        (publications.map ArtifactUse.artifact))

def edgesOf (links : List Link) : List Edge :=
  (links.map Link.ends).eraseDups.map fun ends =>
    { producer := ends.1
      consumer := ends.2
      artifacts := ((links.filter fun link => link.ends == ends).map Link.artifact).eraseDups }

namespace Pipeline

-- Dependencies as the jobs' artifacts imply them. Names have to differ, an
-- artifact has one producer, what is required is published, and no job waits
-- for itself; the first of these that does not hold is reported.
def resolve (jobs : List Job) : Except Failure Pipeline := do
  let repeated := repeatedNames (jobs.map Job.name)
  if !repeated.isEmpty then throw (.repeatedJobs repeated)
  let publications := jobs.flatMap Job.publications
  if let some (first, second) := firstRepetition? [] publications then
    throw (.repeatedArtifact second.artifact first.job second.job)
  let links ← (jobs.flatMap Job.requirements).mapM (linkOf publications)
  let pipeline : Pipeline := ⟨jobs, edgesOf links⟩
  let _ ← pipeline.levels
  return pipeline

end Pipeline
end BuildMatrix
