import BuildMatrix.Description.Parts

namespace BuildMatrix

namespace Description

def published (description : Value) : Except Failure PublishedArtifact :=
  match description with
  | .text name => .ok { name := name }
  | table => do
      return {
        name := ← textField table "name" ""
        dir := ← textField table "dir" "."
        patterns := ← textsField table "patterns" ["*"] }

def required (description : Value) : Except Failure RequiredArtifact :=
  match description with
  | .text name => .ok { name := name }
  | table => do
      let autoExtract ← match given? table "auto_extract" with
        | none => pure none
        | some value => do pure (some (← flag "auto_extract" value))
      return {
        name := ← textField table "name" ""
        dir := ← textField table "dir" "."
        autoExtract := autoExtract }

def valueField (table : Value) (key : String) (default : Value) : Value :=
  (table.field? key).getD default

def jobOf (table : Value) : Except Failure Job := do
  let os ← Os.ofValue (valueField table "os" (.text "linux"))
  let environment ← mappingField table "environment" (text "environment")
  let downloads ← mappingField table "downloads" download
  let packages ← mappingField table "packages" (text "packages")
  let publishes ← (← listField table "publish").mapM published
  let requires ← (← listField table "require").mapM required
  let docker ← dockerField table
  let capabilities ← textsField table "capabilities" []
  let setup ← (valueField table "setup" (.list [])).items
  let run ← (valueField table "run" (.list [.texts ["true"]])).items
  let logs ← textsField table "logs" []
  let targets ← textsField table "targets" []
  return {
    name := ← textField table "name" ""
    kind := ← textField table "kind" "run-only"
    os := os
    arch := ← textField table "arch" "amd64"
    timelimit := valueField table "timelimit" (.text "0:10:00")
    run := run
    setup := setup
    capabilities := capabilities
    environment := environment
    downloads := downloads
    packages := packages
    diskspaceRequired := ← optionalText table "diskspace_required"
    logs := logs
    targets := targets
    publishes := publishes
    requires := requires
    docker := docker
    pythonVersion := ← optionalText table "python_version" }

def job (scope : Scope) (description : Value) : Except Failure Job := do
  match ← scope.referred description with
  | some (.job made) => return made
  | some _ => throw (.malformed "job")
  | none => jobOf description

def jobsPart (scope : Scope) (description : Value) : Except Failure (List Job) := do
  match ← scope.referred description with
  | some (.jobs made) => return made
  | _ => return [← job scope description]

def jobs (scope : Scope) (description : Value) : Except Failure (List Job) :=
  match description with
  | .list items => do return (← items.mapM (jobsPart scope)).flatten
  | other => jobsPart scope other

-- Groups of jobs under kinds. A kind that comes again, as a text or as a member,
-- is the same key: it keeps its place and takes the later jobs. The jobs are
-- read before the kind has to be a key.
def group (scope : Scope) (description : Value) : Except Failure (String × Value × List Job) :=
  match description with
  | .list [kindDescription, jobDescriptions] => do
      let asked ← kind kindDescription
      let jobs ← jobs scope jobDescriptions
      let key ← asked.key
      return (key.literal, key, jobs)
  | _ => .error (.malformed "group")

def groups (scope : Scope) (descriptions : Value) : Except Failure (List (Value × List Job)) := do
  let rows ← (← descriptions.items).mapM (group scope)
  return (placeRows [] rows).map Prod.snd

def edge (description : Value) : Except Failure Edge :=
  match description with
  | .list [producer, consumer, artifacts] => do
      return {
        producer := ← text "edge" producer
        consumer := ← text "edge" consumer
        artifacts := ← texts "edge" artifacts }
  | _ => .error (.malformed "edge")

def pipeline (scope : Scope) (description : Value) : Except Failure Pipeline := do
  match ← scope.referred (.ofOption (description.field? "pipeline")) with
  | some (.pipeline made) => return made
  | some _ => throw (.malformed "pipeline")
  | none =>
      return {
        jobs := ← jobs scope (valueField description "jobs" (.list []))
        edges := ← (← listField description "edges").mapM edge }

end Description
end BuildMatrix
