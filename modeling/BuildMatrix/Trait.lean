import BuildMatrix.Command
import BuildMatrix.Mapping
import BuildMatrix.Platform

namespace BuildMatrix

structure Download where
  name : String
  version : String
  platformSpecific : Bool := true
deriving DecidableEq, Repr

structure Docker where
  image : String
  mountModules : Bool := false
deriving DecidableEq, Repr

-- A fragment of configuration: a system, an architecture or a feature. What a
-- trait leaves open it leaves to the traits before it.
structure Trait where
  label : String := ""
  name : String := ""
  capabilities : List String := []
  environment : Mapping String := ∅
  downloads : Mapping Download := ∅
  packages : Mapping String := ∅
  setup : List Command := []
  run : List Command := []
  os : Option Os := none
  arch : Option String := none
  docker : Option Docker := none
  pythonVersion : Option String := none
  path : Option PathSpelling := none
  exe : Option PathSpelling := none
  jdkHome : Option PathSpelling := none
  copyDir : Option DirectoryCopy := none
deriving Inhabited

def Trait.title (trait : Trait) : String :=
  if trait.label.isEmpty then "<anonymous>" else trait.label

end BuildMatrix
