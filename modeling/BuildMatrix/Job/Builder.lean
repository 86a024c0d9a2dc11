import BuildMatrix.Job.Parameters
import BuildMatrix.Job.Steps
import BuildMatrix.Registry.Catalogue
import BuildMatrix.Template.Compose

namespace BuildMatrix

structure Machine where
  os : Os
  arch : String
deriving DecidableEq, Repr

structure Builder where
  settings : Settings
  registry : Registry

namespace Builder

def make (settings : Option Settings) (registry : Option Registry) : Builder :=
  ⟨settings.getD {}, Registry.orCatalogue registry⟩

def logs : List String := ["*.log"]
def targets : List String := ["gate"]

-- A job with everything its template says. The steps that traits contributed
-- run before the kind's own.
def job (machine : Machine) (template : JobTemplate) (kind : JobKind) (name : String)
    (steps : List Command) (timelimit : Value) : Job where
  name := name
  kind := kind.word
  os := machine.os
  arch := machine.arch
  timelimit := timelimit
  run := (template.run ++ steps).map Command.toValue
  setup := template.setup.map Command.toValue
  capabilities := template.capabilities
  environment := template.environment
  downloads := template.downloads
  packages := template.packages
  logs := logs
  targets := targets
  docker := template.docker
  pythonVersion := template.pythonVersion

def jdkMixins (musl : Bool) : List String :=
  if musl then ["musl-boot-jdk"] else ["boot-jdk", "jtreg", "build-packages"]

def jdk (builder : Builder) (machine : Machine) (template : JobTemplate) (kind : JobKind)
    (musl : Bool) : Except Failure Job := do
  let mixins ← builder.registry.getAll (jdkMixins musl)
  let composed ← template.extend mixins
  let bare := job machine composed kind ("build-jdk" ++ composed.name)
    (Steps.jdk builder.settings composed musl) (.text "1:50:00")
  return { bare with
    diskspaceRequired := some "10G"
    publishes := if musl then [] else
      [{ name := Artifact.labsjdk composed, dir := ".", patterns := ["*-java-home"] }] }

def requireLabsjdk (template : JobTemplate) : Trait where
  label := "require-labsjdk"
  environment := .ofList [
    ("LABSJDK_HOME", template.path (Steps.envRef "PWD" ++ "/jdk/release-java-home"))]
  setup := [Steps.exportJavaHome template]

def labsjdkArtifact (template : JobTemplate) : RequiredArtifact :=
  { name := Artifact.labsjdk template, dir := "jdk" }

def cloneGraal (settings : Settings) (template : JobTemplate) : Trait where
  label := "clone-graal"
  run := Steps.cloneGraal settings template

def graalTemplate (settings : Settings) (template : JobTemplate) : Except Failure JobTemplate :=
  template.extend [requireLabsjdk template, cloneGraal settings template]

def compilerTest (builder : Builder) (machine : Machine) (template : JobTemplate) :
    Except Failure Job := do
  let composed ← graalTemplate builder.settings template
  let bare := job machine composed .compilerTest ("test-compiler" ++ composed.name)
    Steps.compilerTest (.text "1:00:00")
  return { bare with requires := [labsjdkArtifact template] }

def jsTest (builder : Builder) (machine : Machine) (template : JobTemplate) : Except Failure Job := do
  let composed ← graalTemplate builder.settings template
  let bare := job machine composed .jsTest ("test-js" ++ composed.name) Steps.jsTest (.text "1:00:00")
  return { bare with requires := [labsjdkArtifact template] }

def libgraalBuild (builder : Builder) (machine : Machine) (template : JobTemplate) :
    Except Failure Job := do
  let composed ← graalTemplate builder.settings template
  let bare := job machine composed .libgraalBuild ("build-libgraal" ++ composed.name)
    (Steps.libgraalBuild composed) (.text "1:00:00")
  return { bare with
    publishes := [
      { name := Artifact.graalCommit composed, dir := ".", patterns := ["graal-commit"] },
      { name := Artifact.libgraal composed, dir := ".", patterns := ["libgraal-home"] }]
    requires := [labsjdkArtifact template] }

def libgraalTest (builder : Builder) (machine : Machine) (template : JobTemplate) :
    Except Failure Job := do
  let composed ← graalTemplate builder.settings template
  let bare := job machine composed .libgraalTest ("test-libgraal" ++ composed.name)
    (Steps.libgraalTest composed) (.text "1:00:00")
  return { bare with
    requires := [
      labsjdkArtifact template,
      { name := Artifact.graalCommit composed, dir := ".", autoExtract := some false },
      { name := Artifact.libgraal composed, dir := ".", autoExtract := some true }] }

def labelOf (template : JobTemplate) (parameters : Parameters) : Except Failure String :=
  match (parameters.named.get? "label").bind Parameter.text? with
  | some label => if label.isEmpty then .error (.missingLabel template.traits) else .ok label
  | none => .error (.missingLabel template.traits)

def commandsOf (composed : JobTemplate) (name : String) (parameters : Parameters) :
    Except Failure (List Command) := do
  let given := (parameters.valueAt? "commands" composed).getD .null
  if !given.truthy then throw (.missingCommands name)
  (← given.items).mapM (Command.ofValue name)

def runOnly (machine : Machine) (template : JobTemplate) (parameters : Parameters) :
    Except Failure Job := do
  let label ← labelOf template parameters
  let composed ← template.extend [requireLabsjdk template]
  let name := "run-" ++ label ++ composed.name
  let steps ← commandsOf composed name parameters
  let timelimit := ((parameters.named.get? "timelimit").bind Parameter.fixed?).getD (.text "0:30:00")
  let bare := job machine composed .runOnly name steps timelimit
  return { bare with requires := [labsjdkArtifact template] }

def muslFlag (parameters : Parameters) : Bool := (parameters.named.get? "musl").any Parameter.truthy

def buildKind (builder : Builder) (machine : Machine) (template : JobTemplate)
    (parameters : Parameters) : JobKind → Except Failure Job
  | .build => builder.jdk machine template .build (muslFlag parameters)
  | .muslBuild => builder.jdk machine template .muslBuild true
  | .compilerTest => builder.compilerTest machine template
  | .jsTest => builder.jsTest machine template
  | .libgraalBuild => builder.libgraalBuild machine template
  | .libgraalTest => builder.libgraalTest machine template
  | .runOnly => runOnly machine template parameters

def unaccepted (kind : JobKind) (parameters : Parameters) : List Value :=
  parameters.names.filter fun name => !(name.text?.any kind.acceptedParameters.contains)

def machineOf (kind : JobKind) (template : JobTemplate) : Except Failure Machine :=
  match template.os, template.arch with
  | none, _ => .error (.missingField kind .os template.traits)
  | some _, none => .error (.missingField kind .arch template.traits)
  | some os, some arch => .ok ⟨os, arch⟩

-- Parameters are checked first, then the machine, then what the kind itself
-- asks for.
def build (builder : Builder) (template : JobTemplate) (kind : JobKind) (parameters : Parameters) :
    Except Failure Job := do
  let unknown := unaccepted kind parameters
  if !unknown.isEmpty then throw (.unacceptedParameters kind (← Value.sorted unknown))
  let machine ← machineOf kind template
  builder.buildKind machine template parameters kind

def buildGiven (builder : Builder) (template : JobTemplate) (kind : Value)
    (given : GivenParameters) : Except Failure Job := do
  let kind ← JobKind.ofValue kind
  let parameters ← given.read
  builder.build template kind parameters

end Builder
end BuildMatrix
