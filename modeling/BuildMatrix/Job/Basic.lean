import BuildMatrix.Template.Basic

namespace BuildMatrix

structure PublishedArtifact where
  name : String
  dir : String := "."
  patterns : List String := ["*"]
deriving DecidableEq, Repr

structure RequiredArtifact where
  name : String
  dir : String := "."
  autoExtract : Option Bool := none
deriving DecidableEq, Repr

-- A job ready for the engine. What it publishes and requires is the only
-- source of dependencies. Steps are kept as given and checked by nobody
-- before they are written out.
structure Job where
  name : String
  kind : String
  os : Os
  arch : String
  timelimit : Value
  run : List Value
  setup : List Value := []
  capabilities : List String := []
  environment : Mapping String := ∅
  downloads : Mapping Download := ∅
  packages : Mapping String := ∅
  diskspaceRequired : Option String := none
  logs : List String := []
  targets : List String := []
  publishes : List PublishedArtifact := []
  requires : List RequiredArtifact := []
  docker : Option Docker := none
  pythonVersion : Option String := none
deriving Inhabited

end BuildMatrix
