import BuildMatrix.Description.Scope

namespace BuildMatrix

namespace Description

mutual
def argument : Value → Except Failure Argument
  | .text string => .ok (.text string)
  | .list items => do return .output (← arguments items)
  | _ => .error (.malformed "command")
def arguments : List Value → Except Failure (List Argument)
  | [] => .ok []
  | item :: rest => do
      let first ← argument item
      let others ← arguments rest
      return first :: others
end

def command (description : Value) : Except Failure Command := do
  arguments (← description.items)

def commandsField (table : Value) (key : String) : Except Failure (List Command) := do
  (← listField table key).mapM command

def download (description : Value) : Except Failure Download := do
  return {
    name := ← textField description "name" ""
    version := ← textField description "version" ""
    platformSpecific := ← flagField description "platformspecific" true }

def dockerField (table : Value) : Except Failure (Option Docker) :=
  match given? table "docker" with
  | none => .ok none
  | some description => do
      return some {
        image := ← textField description "image" ""
        mountModules := ← flagField description "mount_modules" false }

def osField (table : Value) : Except Failure (Option Os) :=
  match given? table "os" with
  | none => .ok none
  | some value => return some (← Os.ofValue value)

def spellingField {α : Type} (table : Value) (key : String) (named? : String → Option α) :
    Except Failure (Option α) :=
  match given? table key with
  | none => .ok none
  | some value => do
      match named? (← text key value) with
      | some spelling => return some spelling
      | none => throw (.malformed key)

def traitOf (table : Value) : Except Failure Trait := do
  return {
    label := ← textField table "label" ""
    name := ← textField table "name" ""
    os := ← osField table
    arch := ← optionalText table "arch"
    environment := ← mappingField table "environment" (text "environment")
    downloads := ← mappingField table "downloads" download
    packages := ← mappingField table "packages" (text "packages")
    docker := ← dockerField table
    pythonVersion := ← optionalText table "python_version"
    path := ← spellingField table "path" Platform.pathNamed?
    exe := ← spellingField table "exe" Platform.pathNamed?
    jdkHome := ← spellingField table "jdk_home" Platform.pathNamed?
    copyDir := ← spellingField table "copydir" Platform.copyDirNamed?
    capabilities := ← textsField table "capabilities" []
    setup := ← commandsField table "setup"
    run := ← commandsField table "run" }

def trait (scope : Scope) (registry : Registry) (description : Value) : Except Failure Trait := do
  match description, ← scope.referred description with
  | _, some (.trait made) => return made
  | .text name, _ => registry.get name
  | table, none => traitOf table
  | _, _ => throw (.malformed "trait")

def traits (scope : Scope) (registry : Registry) (descriptions : Value) :
    Except Failure (List Trait) := do
  (← descriptions.items).mapM (trait scope registry)

def template (scope : Scope) (description : Value) : Except Failure JobTemplate := do
  match ← scope.referred description with
  | some (.template made) => return made
  | some _ => throw (.malformed "template")
  | none =>
      let fields ← traitOf description
      return {
        traits := ← textsField description "traits" []
        name := fields.name
        capabilities := fields.capabilities
        environment := fields.environment
        downloads := fields.downloads
        packages := fields.packages
        setup := fields.setup
        run := fields.run
        os := fields.os
        arch := fields.arch
        docker := fields.docker
        pythonVersion := fields.pythonVersion
        path := fields.path.getD Platform.unixPath
        exe := fields.exe.getD Platform.unixExe
        jdkHome := fields.jdkHome.getD Platform.unixJdkHome
        copyDir := fields.copyDir.getD Platform.unixCopyDir
        owners := ← mappingField description "owners" (text "owners") }

-- Traits in a registry that are only named are those of the catalogue.
def registry (scope : Scope) (description : Value) : Except Failure (Option Registry) := do
  match description, ← scope.referred description with
  | _, some (.registry made) => return some made
  | .null, _ => return none
  | table, none =>
      let own ← mappingField table "traits" (trait scope Registry.catalogue)
      let extended := ((table.field? "extend_default").map Value.truthy).getD false
      let start := if extended then Registry.catalogue.traits else ∅
      return some (← Registry.ofValues (start.overlay own) ((table.field? "base").getD (.list [])))
  | _, _ => throw (.malformed "registry")

def settings (description : Value) : Except Failure (Option Settings) := do
  if isNull description then return none
  let defaults : Settings := {}
  return some {
    builderRepo := ← textField description "labsjdk_builder_repo" defaults.builderRepo
    builderVersion := ← textField description "labsjdk_builder_version" defaults.builderVersion
    graalRepo := ← textField description "graal_repo" defaults.graalRepo
    downstreamBranch := ← textField description "downstream_branch" defaults.downstreamBranch }

def kind (description : Value) : Except Failure Value :=
  match description.field? "enum" with
  | none => .ok description
  | some member =>
      match member.text?.bind JobKind.ofWord? with
      | some kind => .ok (.text kind.word)
      | none => .error (.notMember "JobKind" member)

-- Commands that are found for a composed template: paths go through its
-- spellings, fields are filled in, everything else stays as it is.
mutual
def filled (template : JobTemplate) : Value → Value
  | .list items => .list (filledItems template items)
  | .table [("path", .text path)] => .text (template.path path)
  | .table [("exe", .text path)] => .text (template.exe path)
  | .table [("jdk_home", .text path)] => .text (template.jdkHome path)
  | .table [("copydir", .list [.text source, .text target])] => .texts (template.copyDir source target)
  | .table [("field", .text "name")] => .text template.name
  | .table [("field", .text "arch")] => .optionText template.arch
  | other => other
def filledItems (template : JobTemplate) : List Value → List Value
  | [] => []
  | item :: rest => filled template item :: filledItems template rest
end

def parameter (row : String × Value) : String × Parameter :=
  match row with
  | ("commands", .table [("call", rule)]) => ("commands", .computed fun template => filled template rule)
  | (name, value) => (name, .fixed value)

def parameters (description : Value) : GivenParameters :=
  match description with
  | .table rows => .named (.ofList (rows.map parameter))
  | other => .data other

def parametersField (table : Value) : GivenParameters :=
  parameters (.ofOption (table.field? "params"))

def matrix (scope : Scope) (description : Value) : Except Failure Matrix := do
  match ← scope.referred description with
  | some (.matrix made) => return made
  | some _ => throw (.malformed "matrix")
  | none =>
      let kind ← kind (.ofOption (description.field? "kind"))
      Matrix.ofValues kind (.ofOption (description.field? "combinations")) (parametersField description)

def matrices (scope : Scope) (description : Value) : Except Failure (Option (List Matrix)) := do
  match description with
  | .null => return none
  | .text "default" => return some Matrix.defaults
  | other =>
      let parts ← (← other.items).mapM fun item =>
        match item with
        | .text "default" => .ok Matrix.defaults
        | spelled => do return [← matrix scope spelled]
      return some parts.flatten

end Description
end BuildMatrix
