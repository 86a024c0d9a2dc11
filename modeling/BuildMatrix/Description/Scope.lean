import BuildMatrix.Matrix.Default
import BuildMatrix.Description.Fields
import BuildMatrix.Pipeline.Basic

namespace BuildMatrix

namespace Description

inductive Named where
  | trait (made : Trait)
  | template (made : JobTemplate)
  | templates (made : List JobTemplate)
  | job (made : Job)
  | jobs (made : List Job)
  | pipeline (made : Pipeline)
  | registry (made : Registry)
  | matrix (made : Matrix)

-- What descriptions are read with: the objects named so far, the latest first,
-- and what a failure is that is told by the name of its kind and a message.
structure Scope where
  objects : List (String × Named) := []
  raised : String → String → Report := fun word message => { kind := .ofWord word, message := message }

namespace Scope

def name (scope : Scope) (key : String) (object : Named) : Scope :=
  { scope with objects := (key, object) :: scope.objects }

def referred (scope : Scope) (description : Value) : Except Failure (Option Named) :=
  match description.field? "ref" with
  | some (.text name) =>
      match scope.objects.lookup name with
      | some object => .ok (some object)
      | none => .error (.unnamedObject name)
  | _ => .ok none

end Scope
end Description
end BuildMatrix
