import BuildMatrix.Job.Kind
import BuildMatrix.Report
import BuildMatrix.Value.Literal

namespace BuildMatrix

inductive SingularField where
  | os
  | arch
deriving DecidableEq, Repr

def SingularField.word : SingularField → String
  | .os => "os"
  | .arch => "arch"

structure Claim where
  owner : String
  value : String
deriving DecidableEq, Repr

inductive Failure where
  | conflict (field : SingularField) (first second : Claim) (composed : List String)
  | unknownTrait (asked : Value) (known : List String)
  | unknownKind (asked : Value)
  | unacceptedParameters (kind : JobKind) (unknown : List Value)
  | missingField (kind : JobKind) (field : SingularField) (traits : List String)
  | missingLabel (traits : List String)
  | missingCommands (job : String)
  | commandNotList (job : String) (got : Value)
  | commandEmpty (job : String)
  | combinationNotList (got : Value)
  | traitNameNotText (got : Value)
  | repeatedJobs (names : List String)
  | repeatedArtifact (artifact first second : String)
  | unpublishedArtifact (job artifact : String) (published : List String)
  | cyclic (stuck : List String)
  | unknownJob (name : String)
  | notIterable (got : Value)
  | notHashable (got : Value)
  | notComparable (smaller greater : Value)
  | notSequence (index : Nat)
  | notPair (index : Nat) (size : Nat)
  | notMember (enumeration : String) (got : Value)
  | pathBroken
  | pathTooLong (path : String)
  | homeUnknown
  | matrixFileMissing (path : String)
  | matrixFileSuffix (name : String)
  | matrixFileContents
  | matrixFileFolder (path : String)
  | registryType (typeName : String)
  | unnamedObject (name : String)
  | malformed (what : String)
  | raised (report : Report)
deriving Inhabited

namespace Failure

def orNone (text : String) : String := if text.isEmpty then "none" else text

def commas (items : List String) : String := ", ".intercalate items

def report : Failure → Report
  | .conflict field first second composed =>
      { kind := .compositionConflict
        message := "traits " ++ Text.quoted first.owner ++ " and " ++ Text.quoted second.owner
          ++ " both set " ++ field.word
        details := [("field", field.word),
          ("first", first.owner ++ "=" ++ first.value),
          ("second", second.owner ++ "=" ++ second.value),
          ("composed", "+".intercalate composed)] }
  | .unknownTrait asked known =>
      { kind := .configuration
        message := "unknown trait " ++ asked.literal
        details := [("known", commas known)] }
  | .unknownKind asked =>
      { kind := .configuration
        message := "unknown job kind " ++ asked.literal
        details := [("known", commas (JobKind.all.map JobKind.word))] }
  | .unacceptedParameters kind unknown =>
      { kind := .configuration
        message := kind.word ++ " does not accept parameters " ++ (Value.list unknown).literal
        details := [("accepted", orNone (commas kind.acceptedParameters))] }
  | .missingField kind field traits =>
      let composed := "+".intercalate traits
      { kind := .configuration
        message := kind.word ++ " job cannot be derived: template has no " ++ field.word
        details := [("kind", kind.word), ("traits", if composed.isEmpty then "<none>" else composed)] }
  | .missingLabel traits =>
      { kind := .configuration
        message := "run-only jobs need a 'label' parameter"
        details := [("traits", "+".intercalate traits)] }
  | .missingCommands job =>
      { kind := .configuration
        message := "run-only jobs need at least one command"
        details := [("job", job)] }
  | .commandNotList job got =>
      { kind := .configuration
        message := "a command must be a list of arguments"
        details := [("job", job), ("got", got.literal)] }
  | .commandEmpty job =>
      { kind := .configuration
        message := "a command must not be empty"
        details := [("job", job)] }
  | .combinationNotList got =>
      { kind := .configuration
        message := "a combination must be a list of trait names"
        details := [("got", got.literal)] }
  | .traitNameNotText got =>
      { kind := .configuration
        message := "trait names must be strings"
        details := [("got", got.literal)] }
  | .repeatedJobs names =>
      { kind := .configuration
        message := "duplicate job names"
        details := [("jobs", commas names)] }
  | .repeatedArtifact artifact first second =>
      { kind := .duplicateProducer
        message := "artifact " ++ Text.quoted artifact ++ " has more than one producer"
        details := [("artifact", artifact), ("producers", commas [first, second])] }
  | .unpublishedArtifact job artifact published =>
      { kind := .unresolvedArtifact
        message := "job " ++ Text.quoted job ++ " requires artifact " ++ Text.quoted artifact
          ++ " but no job publishes it"
        details := [("job", job), ("artifact", artifact), ("published", orNone (commas published))] }
  | .cyclic stuck =>
      { kind := .cyclicDependency
        message := "artifact dependencies form a cycle"
        details := [("stuck", commas stuck)] }
  | .unknownJob name => { kind := .missingKey, message := name }
  | .notIterable got =>
      { kind := .wrongType, message := Text.quoted got.typeName ++ " object is not iterable" }
  | .notHashable got =>
      { kind := .wrongType, message := "unhashable type: " ++ Text.quoted got.typeName }
  | .notComparable smaller greater =>
      { kind := .wrongType
        message := "'<' not supported between instances of " ++ Text.quoted smaller.typeName
          ++ " and " ++ Text.quoted greater.typeName }
  | .notSequence index =>
      { kind := .wrongType
        message := "cannot convert dictionary update sequence element #" ++ toString index
          ++ " to a sequence" }
  | .notPair index size =>
      { kind := .badValue
        message := "dictionary update sequence element #" ++ toString index ++ " has length "
          ++ toString size ++ "; 2 is required" }
  | .notMember enumeration got =>
      { kind := .badValue, message := got.literal ++ " is not a valid " ++ enumeration }
  | .pathBroken => { kind := .badValue, message := "embedded null byte" }
  | .pathTooLong path =>
      { kind := .longPath, message := "[Errno 36] File name too long: " ++ Text.quoted path }
  | .homeUnknown => { kind := .unknownHome, message := "Could not determine home directory." }
  | .matrixFileMissing path =>
      { kind := .missingFile, message := "Matrix file not found: " ++ path }
  | .matrixFileSuffix name =>
      { kind := .badValue, message := "Matrix file must be a .py file, got: " ++ name }
  | .matrixFileContents =>
      { kind := .wrongType
        message := "Matrix file must return/define a List[Matrix]. "
          ++ "Define matrices() -> List[Matrix] or MATRIX = [Matrix, ...]." }
  | .matrixFileFolder path =>
      { kind := .unrunnableFile
        message := "can't find '__main__' module in " ++ Text.quoted path }
  | .registryType typeName =>
      { kind := .wrongType, message := "REGISTRY must be a TraitRegistry, got " ++ typeName }
  | .unnamedObject name => { kind := .unnamedObject, message := name }
  | .malformed what => { kind := .malformedDescription, message := what }
  | .raised report => report

def text (failure : Failure) : String := failure.report.text

end Failure

end BuildMatrix
