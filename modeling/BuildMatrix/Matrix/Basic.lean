import BuildMatrix.Job.Builder

namespace BuildMatrix

-- Trait names composed after the registry's base traits: one matrix cell.
abbrev Combination := List String

namespace Combination

def ofValue (value : Value) : Except Failure Combination :=
  match value with
  | .list items =>
      match items.mapM Value.text? with
      | some names => .ok names
      | none => .error (.traitNameNotText value)
  | _ => .error (.combinationNotList value)

def template (registry : Registry) (combination : Combination) : Except Failure JobTemplate := do
  JobTemplate.compose (← registry.resolve combination)

def literal (combination : Combination) : String :=
  match combination with
  | [single] => "(" ++ Text.quoted single ++ ",)"
  | names => Value.bracketed "(" (names.map Text.quoted) ")"

end Combination

namespace Registry

-- One template for every combination, in the given order and without any
-- product. Each is composed before the next one is looked at.
def expand (registry : Option Registry) (combinations : Value) : Except Failure (List JobTemplate) := do
  let registry := orCatalogue registry
  (← combinations.items).mapM fun given => do
    (← Combination.ofValue given).template registry

end Registry

structure Matrix where
  kind : JobKind
  combinations : List Combination
  parameters : Parameters

namespace Matrix

def ofValues (kind combinations : Value) (parameters : GivenParameters) : Except Failure Matrix := do
  let kind ← JobKind.ofValue kind
  let combinations ← (← combinations.items).mapM Combination.ofValue
  let parameters ← parameters.read
  return ⟨kind, combinations, parameters⟩

def templatesIn (registry : Registry) (matrix : Matrix) : Except Failure (List JobTemplate) :=
  matrix.combinations.mapM (Combination.template registry)

def templates (registry : Option Registry) (matrix : Matrix) : Except Failure (List JobTemplate) :=
  matrix.templatesIn (Registry.orCatalogue registry)

-- Every cell is composed before the first job is built.
def jobs (builder : Builder) (matrix : Matrix) : Except Failure (List Job) := do
  let templates ← matrix.templates (some builder.registry)
  templates.mapM fun template => builder.build template matrix.kind matrix.parameters

def literal (matrix : Matrix) : String :=
  "Matrix(" ++ Text.quoted matrix.kind.word ++ ", "
    ++ Value.bracketed "[" (matrix.combinations.map Combination.literal) "]" ++ ")"

end Matrix

def jobsInTurn (builder : Builder) (matrices : List Matrix) :
    Except Failure (List (JobKind × List Job)) :=
  matrices.mapM fun matrix => do return (matrix.kind, ← matrix.jobs builder)

def groupByKind (groups : List (JobKind × List Job)) : List (JobKind × List Job) :=
  (groups.map Prod.fst).eraseDups.map fun kind =>
    (kind, (groups.filter fun group => group.1 == kind).flatMap Prod.snd)

def jobsByKind (builder : Builder) (matrices : List Matrix) :
    Except Failure (List (JobKind × List Job)) := do
  return groupByKind (← jobsInTurn builder matrices)

end BuildMatrix
