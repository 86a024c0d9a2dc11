import BuildMatrix.Cli.Run
import BuildMatrix.Description.Source
import BuildMatrix.Json.Reader

namespace BuildMatrix

namespace Main

def variableNames : List String :=
  ["LABCI_MATRIX", "LABCI_BUILDER_REPO", "LABCI_BUILDER_VERSION", "LABCI_GRAAL_REPO",
    "LABCI_DOWNSTREAM_BRANCH"]

def environment : IO (List (String × String)) := do
  let rows ← variableNames.mapM fun name => do return (name, ← IO.getEnv name)
  return rows.filterMap fun (name, value) => value.map fun set => (name, set)

def absolute (place : List String) : String := "/" ++ "/".intercalate place

def isFolder (place : List String) : IO Bool := do
  return ← ((← IO.currentDir) / absolute place).isDir

-- A matrix file is a description of its globals. One that cannot be read as
-- such fails when it is run.
def unreadable (message : String) : MatrixFile.Source :=
  [("MATRIX", .fail { kind := .badValue, message := message })]

def sourceOf (text : String) : MatrixFile.Source :=
  match Json.read? text with
  | none => unreadable "matrix file is not a description"
  | some description =>
      match Description.source {} description with
      | .ok source => source
      | .error failure => unreadable failure.text

def fileAt (place : List String) : IO (List (List String × MatrixFile.Source)) := do
  let path := (← IO.currentDir) / absolute place
  if (← path.isDir) || !(← path.pathExists) then return []
  try
    let text ← IO.FS.readFile path
    return [(place, sourceOf text)]
  catch _ => return [(place, unreadable "matrix file is not text")]

def places (bare : Workspace MatrixFile.Source) (request : Cli.Request) : List (List String) :=
  let output := match request with
    | .generate _ output _ => output.toList
    | _ => []
  let matrix := (request.matrix.toList.filterMap fun path => (bare.expandHome path).toOption).map
    (Path.resolve bare.root)
  matrix ++ matrix.map MatrixFile.entryFile ++ matrix.flatMap MatrixFile.foundBeforeEntry
    ++ output.map (Path.resolve bare.root)

def homes : IO (List (String × String)) := do
  let own := (← IO.getEnv "HOME").toList.map fun home => ("", home)
  try
    let users := (← IO.FS.lines "/etc/passwd").toList.map (·.splitOn ":")
    return own ++ users.filterMap fun fields => fields.head?.bind fun user => fields[5]?.map fun home => (user, home)
  catch _ => return own

def workspaceFor (root : List String) (request : Option Cli.Request) :
    IO (Workspace MatrixFile.Source) := do
  let bare : Workspace MatrixFile.Source := ⟨root, absolute root, [], [], ← homes⟩
  let touched := (request.map (places bare)).getD []
  let files ← touched.mapM fileAt
  let candidates := touched.flatMap fun place => Path.above place ++ [place]
  let directories ← candidates.filterM isFolder
  return { bare with files := files.flatten, directories := directories }

-- A variable whose bytes are no text comes with the replacement character.
def encodingsFor (known : List (String × String)) : Encodings :=
  if known.any fun row => row.2.contains '\uFFFD' then .without ['\uFFFD'] else {}

def usage : String :=
  "usage: [--debug] generate [--matrix FILE] [--output FILE] [--compact]\n"
    ++ "       [--debug] check [--matrix FILE]\n"
    ++ "       [--debug] plan [--matrix FILE] [--blocked-by JOB]"

def run (words : List String) : IO UInt32 := do
  let known ← environment
  let lookup (name : String) : Option String := known.lookup name
  let root := Path.names (← IO.currentDir).toString
  let request := (Cli.readArguments lookup words).map (·.request)
  let workspace ← workspaceFor root request
  let outcome := Cli.run workspace (encodingsFor known) lookup words
  for (place, text) in outcome.written do
    IO.FS.writeFile (absolute place) text
  outcome.printed.out.forM IO.print
  IO.eprint outcome.printed.err
  if outcome.exitCode = 2 then IO.eprintln usage
  if outcome.escaped.isSome then IO.eprintln "the output could not be written"
  return UInt32.ofNat outcome.exitCode

end Main
end BuildMatrix

def main (words : List String) : IO UInt32 := BuildMatrix.Main.run words
