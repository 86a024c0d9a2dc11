import BuildMatrix.Trait

namespace BuildMatrix

-- What a sequence of traits amounts to: one cell of a matrix. The owners say
-- which trait set a singular field.
structure JobTemplate where
  traits : List String := []
  name : String := ""
  capabilities : List String := []
  environment : Mapping String := ∅
  downloads : Mapping Download := ∅
  packages : Mapping String := ∅
  setup : List Command := []
  run : List Command := []
  os : Option Os := none
  arch : Option String := none
  docker : Option Docker := none
  pythonVersion : Option String := none
  path : PathSpelling := Platform.unixPath
  exe : PathSpelling := Platform.unixExe
  jdkHome : PathSpelling := Platform.unixJdkHome
  copyDir : DirectoryCopy := Platform.unixCopyDir
  owners : Mapping String := ∅
deriving Inhabited

namespace JobTemplate

def empty : JobTemplate := {}

def owner (template : JobTemplate) (field : SingularField) : String :=
  (template.owners.get? field.word).getD "<template>"

end JobTemplate
end BuildMatrix
