import BuildMatrix.MatrixFile.Source
import BuildMatrix.Workspace

namespace BuildMatrix

structure MatrixFile where
  path : String
  matrices : List Matrix
  registry : Option Registry

namespace MatrixFile

def chosen (globals : List (String × Object)) : Except Failure (Option Object) :=
  match globals.lookup "matrices" with
  | some (.function body) => do return some (← run body)
  | _ => .ok (globals.lookup "MATRIX")

def registryOf (globals : List (String × Object)) : Except Failure (Option Registry) :=
  match globals.lookup "REGISTRY" with
  | none => .ok none
  | some (.data .null) => .ok none
  | some (.registry registry) => .ok (some registry)
  | some other => .error (.registryType other.typeName)

def evaluate (path : String) (source : Source) : Except Failure MatrixFile := do
  let globals ← runSource source
  match (← chosen globals).bind Object.matrices? with
  | some matrices => return ⟨path, matrices, ← registryOf globals⟩
  | none => throw .matrixFileContents

-- A directory is run by one file in it. A package of that file's name is found
-- before it, and so is a compiled module: neither can be run.
def entryFile (place : List String) : List String := place ++ ["__main__.py"]

def compiledSuffixes : List String := [".cpython-311-x86_64-linux-gnu.so", ".abi3.so", ".so"]

def foundBeforeEntry (place : List String) : List (List String) :=
  ((compiledSuffixes ++ [".py", ".pyc"]).map fun suffix => place ++ ["__main__", "__init__" ++ suffix])
    ++ compiledSuffixes.map fun suffix => place ++ ["__main__" ++ suffix]

def directorySource? (workspace : Workspace Source) (place : List String) : Option Source :=
  if (foundBeforeEntry place).any fun found => (workspace.file? found).isSome then none
  else workspace.file? (entryFile place)

def load (workspace : Workspace Source) (path : String) : Except Failure MatrixFile := do
  let path ← workspace.expandHome path
  if Path.isBroken path then throw .pathBroken
  let place := Path.resolve workspace.root path
  let shown := workspace.render place
  if workspace.isLong place then throw (.pathTooLong shown)
  match workspace.entry? place with
  | none => throw (.matrixFileMissing shown)
  | some entry =>
      if Path.suffix (Path.lastName place) ≠ ".py" then
        throw (.matrixFileSuffix (Path.lastName place))
      match entry with
      | .directory =>
          match directorySource? workspace place with
          | some source => evaluate shown source
          | none => throw (.matrixFileFolder shown)
      | .file source => evaluate shown source

end MatrixFile
end BuildMatrix
