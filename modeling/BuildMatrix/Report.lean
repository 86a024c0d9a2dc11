import BuildMatrix.Text.Quoted

namespace BuildMatrix

-- What went wrong, broadly. The first six are the generator's own verdicts;
-- the others say which assumption about given data or files did not hold.
inductive FailureKind where
  | generation
  | compositionConflict
  | configuration
  | unresolvedArtifact
  | duplicateProducer
  | cyclicDependency
  | wrongType
  | badValue
  | unreadableText
  | unwritableText
  | missingKey
  | missingFile
  | blockedPath
  | directoryPath
  | longPath
  | unknownHome
  | unrunnableFile
  | unnamedObject
  | malformedDescription
  | other (name : String)
deriving DecidableEq, Repr

namespace FailureKind

def heading? : FailureKind → Option String
  | .generation => some "generation_error"
  | .compositionConflict => some "composition_conflict"
  | .configuration => some "configuration_error"
  | .unresolvedArtifact => some "unresolved_artifact"
  | .duplicateProducer => some "duplicate_producer"
  | .cyclicDependency => some "cyclic_dependency"
  | _ => none

def verdicts : List FailureKind :=
  [.generation, .compositionConflict, .configuration, .unresolvedArtifact, .duplicateProducer,
    .cyclicDependency]

def ofHeading? (heading : String) : Option FailureKind :=
  verdicts.find? fun kind => kind.heading? == some heading

def ofWord (word : String) : FailureKind :=
  match ofHeading? word with
  | some kind => kind
  | none =>
      match word with
      | "wrong_type" => .wrongType
      | "bad_value" => .badValue
      | "unreadable_text" => .unreadableText
      | "missing_key" => .missingKey
      | "missing_file" => .missingFile
      | name => .other name

def isVerdict (kind : FailureKind) : Bool := kind.heading?.isSome

end FailureKind

structure Report where
  kind : FailureKind
  message : String
  details : List (String × String) := []
deriving DecidableEq, Repr

namespace Report

def detailLines (report : Report) : List String :=
  report.details.map fun detail => detail.1 ++ "=" ++ detail.2

def headline (report : Report) : String :=
  match report.kind.heading? with
  | some heading => heading ++ ": " ++ report.message
  | none => if report.kind = .missingKey then Text.quoted report.message else report.message

def text (report : Report) : String :=
  if report.kind.isVerdict then "\n".intercalate (report.headline :: report.detailLines)
  else report.headline

end Report
end BuildMatrix
