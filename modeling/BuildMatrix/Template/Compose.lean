import BuildMatrix.Template.Basic

namespace BuildMatrix

-- One more word on a singular field. Silence keeps it as it is, the first to
-- speak takes it, and a second one is heard only where the field may be shared
-- and both agree.
inductive Settled (α : Type) where
  | kept (value : Option α)
  | taken (value : α)
  | refused (held new : α)

def settle {α : Type} [DecidableEq α] (shared : Bool) : Option α → Option α → Settled α
  | held, none => .kept held
  | none, some new => .taken new
  | some held, some new => if shared ∧ new = held then .kept (some held) else .refused held new

-- A system is set by at most one trait; traits may agree on an architecture.
def SingularField.shared : SingularField → Bool
  | .os => false
  | .arch => true

namespace JobTemplate

def settleField {α : Type} [DecidableEq α] (template : JobTemplate) (trait : Trait)
    (field : SingularField) (word : α → String) (held new : Option α) (owners : Mapping String) :
    Except Failure (Option α × Mapping String) :=
  match settle field.shared held new with
  | .kept value => .ok (value, owners)
  | .taken value => .ok (some value, owners.insert field.word trait.title)
  | .refused held new =>
      .error (.conflict field ⟨template.owner field, word held⟩ ⟨trait.title, word new⟩
        (template.traits ++ [trait.title]))

def union (first second : List String) : List String := (first ++ second).eraseDups

-- One trait on top of a template. Names, setup and run are appended; of equal
-- keys the later value holds; scalars and spellings defer when absent.
def merge (template : JobTemplate) (trait : Trait) : Except Failure JobTemplate := do
  let (os, owners) ← template.settleField trait .os Os.word template.os trait.os template.owners
  let (arch, owners) ← template.settleField trait .arch id template.arch trait.arch owners
  return {
    traits := template.traits ++ [trait.title]
    name := template.name ++ trait.name
    capabilities := union template.capabilities trait.capabilities
    environment := template.environment.overlay trait.environment
    downloads := template.downloads.overlay trait.downloads
    packages := template.packages.overlay trait.packages
    setup := template.setup ++ trait.setup
    run := template.run ++ trait.run
    os := os
    arch := arch
    docker := trait.docker.or template.docker
    pythonVersion := trait.pythonVersion.or template.pythonVersion
    path := trait.path.getD template.path
    exe := trait.exe.getD template.exe
    jdkHome := trait.jdkHome.getD template.jdkHome
    copyDir := trait.copyDir.getD template.copyDir
    owners := owners }

def extend (template : JobTemplate) (traits : List Trait) : Except Failure JobTemplate :=
  traits.foldlM merge template

def compose (traits : List Trait) : Except Failure JobTemplate := empty.extend traits

end JobTemplate
end BuildMatrix
