import BuildMatrix.Cli.Arguments
import BuildMatrix.Console
import BuildMatrix.MatrixFile.Load
import BuildMatrix.Pipeline.Assemble
import BuildMatrix.Pipeline.Descriptor
import BuildMatrix.Pipeline.Downstream

namespace BuildMatrix

namespace Cli

-- Everything a run of the program leaves behind. A failure that no command
-- expects escapes: it ends the program and is told by its kind alone.
structure Outcome where
  exitCode : Nat
  printed : Printed := {}
  written : List (List String × String) := []
  escaped : Option FailureKind := none
deriving DecidableEq, Repr

def usageError : Outcome := { exitCode := 2 }

def escape (printed : Printed) (kind : FailureKind) : Outcome :=
  { exitCode := 1, printed := printed, escaped := some kind }

-- Ends a command that has done what it was asked for, unless what it has to say
-- cannot be written: then it ends with the first text that is refused.
def conclude (encodings : Encodings) (printed : Printed) (written : List (List String × String)) : Outcome :=
  if printed.out.all (carries encodings.console) then { exitCode := 0, printed := printed, written := written }
  else
    { escape { printed with out := printed.out.takeWhile (carries encodings.console) } .unwritableText with
      written := written }

structure Loading where
  notes : Printed
  result : Except Failure (Pipeline × String)

def loadPipeline (workspace : Workspace MatrixFile.Source) (settings : Settings) (debug : Bool)
    (matrix : Option String) : Loading :=
  let start := Console.debugNote debug ("settings: " ++ settings.summary)
  match matrix with
  | none =>
      ⟨start, do return (← Pipeline.generate none none (some settings), "built-in")⟩
  | some path =>
      match MatrixFile.load workspace path with
      | .error failure => ⟨start, .error failure⟩
      | .ok file =>
          let loaded := Console.debugNote debug
            ("loaded " ++ toString file.matrices.length ++ " matrices from " ++ file.path)
          ⟨start ++ loaded, do
            return (← Pipeline.generate file.registry (some file.matrices) (some settings), file.path)⟩

def loadSuggestion : String :=
  "A matrix file defines matrices() -> List[Matrix] or MATRIX = [Matrix, ...]"

-- Text that cannot be read is a bad value too.
def isLoadFailure (kind : FailureKind) : Bool :=
  kind == .missingFile || kind == .wrongType || kind == .badValue || kind == .unreadableText

def tell (debug : Bool) (matrix : Option String) (failure : Failure) : Printed :=
  let report := failure.report
  let trace := if debug then Console.traceback failure else {}
  if report.kind.isVerdict then
    Console.error "Pipeline generation failed" report.headline report.detailLines "" ++ trace
  else if isLoadFailure report.kind then
    Console.error "Failed to load matrix" ("Could not load matrix from " ++ matrix.getD "None")
      [report.text] loadSuggestion ++ trace
  else Console.exception debug failure

def layoutOf (compact : Bool) : Json.Layout := if compact then .line else .indented 2

def wrote (pipeline : Pipeline) (path : String) : Printed :=
  Console.info ("Wrote " ++ toString pipeline.jobs.length ++ " job(s) to " ++ path)

-- An output file is there, and empty, before its text is encoded.
def generate (workspace : Workspace MatrixFile.Source) (encodings : Encodings) (notes : Printed)
    (pipeline : Pipeline) (output : Option String) (compact : Bool) : Outcome :=
  match pipeline.descriptor (layoutOf compact), output with
  | .error failure, _ => escape notes failure.report.kind
  | .ok text, none => conclude encodings (notes ++ { out := [text] }) []
  | .ok text, some path =>
      match workspace.destination path with
      | .error kind => escape notes kind
      | .ok place =>
          if carries encodings.file text then
            conclude encodings (notes ++ wrote pipeline path) [(place, text)]
          else { escape notes .unwritableText with written := [(place, "")] }

def planStages (pipeline : Pipeline) (levels : List (List String)) : Printed :=
  levels.zipIdx.foldl (fun printed (level, index) =>
    level.foldl (fun printed name => printed ++ Console.planJob name (pipeline.dependenciesOf name))
      (printed ++ Console.planStage index level.length)) {}

def planSkipped (name : String) (skipped : List String) : Printed :=
  skipped.foldl (fun printed job => printed ++ Console.info ("  " ++ job))
    (Console.header ("Skipped if " ++ name ++ " fails"))

def plan (encodings : Encodings) (notes : Printed) (pipeline : Pipeline) : Option String → Outcome
  | none =>
      match pipeline.levels with
      | .ok levels => conclude encodings (notes ++ planStages pipeline levels) []
      | .error failure => escape notes failure.report.kind
  | some name =>
      match pipeline.transitiveDependents name with
      | .ok skipped => conclude encodings (notes ++ planSkipped name skipped) []
      | .error _ =>
          { exitCode := 1
            printed := notes ++ Console.error "Unknown job" ("No job named " ++ Text.quoted name) [] "" }

def perform (workspace : Workspace MatrixFile.Source) (encodings : Encodings) (settings : Settings)
    (invocation : Invocation) : Outcome :=
  let loading := loadPipeline workspace settings invocation.debug invocation.request.matrix
  match loading.result with
  | .error failure =>
      { exitCode := 1
        printed := loading.notes ++ tell invocation.debug invocation.request.matrix failure }
  | .ok (pipeline, source) =>
      match invocation.request with
      | .generate _ output compact => generate workspace encodings loading.notes pipeline output compact
      | .check _ => conclude encodings (loading.notes ++ Console.summary pipeline source) []
      | .plan _ blockedBy => plan encodings loading.notes pipeline blockedBy

-- An output is looked at before anything else is done. One that is a directory
-- is refused, and one that no path can be ends the program.
def outputBroken : Request → Bool
  | .generate _ (some path) _ => Path.isBroken path
  | _ => false

def outputRefused (workspace : Workspace MatrixFile.Source) : Request → Bool
  | .generate _ (some path) _ => workspace.leadsToDirectory path
  | _ => false

def run (workspace : Workspace MatrixFile.Source) (encodings : Encodings) (lookup : String → Option String)
    (words : List String) : Outcome :=
  match readArguments lookup words with
  | none => usageError
  | some invocation =>
      if outputBroken invocation.request then escape {} Failure.pathBroken.report.kind
      else if outputRefused workspace invocation.request then usageError
      else perform workspace encodings (Settings.ofEnvironment lookup) invocation

end Cli
end BuildMatrix
