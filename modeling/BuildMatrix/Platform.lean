import BuildMatrix.Value.Basic

namespace BuildMatrix

inductive Os where
  | linux
  | darwin
  | windows
deriving DecidableEq, Repr, Inhabited

namespace Os

def all : List Os := [.linux, .darwin, .windows]

def word : Os → String
  | .linux => "linux"
  | .darwin => "darwin"
  | .windows => "windows"

def isWindows (os : Os) : Bool := os == .windows

def ofWord? (word : String) : Option Os := all.find? fun os => os.word == word

theorem ofWord?_word (os : Os) : ofWord? os.word = some os := by
  cases os <;> rfl

end Os

-- Commands are written with forward slashes. A spelling gives one path as the
-- machines of a system want it; copying a directory is a command of its own.
abbrev PathSpelling := String → String
abbrev DirectoryCopy := String → String → List String

namespace Platform

def unixPath : PathSpelling := id
def unixExe : PathSpelling := id
def unixJdkHome : PathSpelling := id
def unixCopyDir : DirectoryCopy := fun source target => ["cp", "-r", source, target]

def windowsPath : PathSpelling := fun path => path.map fun c => if c = '/' then '\\' else c
def windowsExe : PathSpelling := fun path => windowsPath path ++ ".exe"

-- Empty subdirectories too, the target is a directory, no list of the files.
def windowsCopyDir : DirectoryCopy := fun source target =>
  ["xcopy", windowsPath source, windowsPath target, "/e", "/i", "/q"]

-- An image is a bundle whose usable home lies inside.
def darwinJdkHome : PathSpelling := fun home => home ++ "/Contents/Home"

def wrapPath (mark : String) : PathSpelling := fun path => mark ++ "(" ++ path ++ ")"
def wrapCopyDir (mark : String) : DirectoryCopy := fun source target => [mark, source, target]

def wrapMark? (name : String) : Option String :=
  match name.toList with
  | 'w' :: 'r' :: 'a' :: 'p' :: ':' :: mark => some (String.ofList mark)
  | _ => none

def pathNamed? (name : String) : Option PathSpelling :=
  match name with
  | "unix_path" => some unixPath
  | "unix_exe" => some unixExe
  | "unix_jdk_home" => some unixJdkHome
  | "windows_path" => some windowsPath
  | "windows_exe" => some windowsExe
  | "darwin_jdk_home" => some darwinJdkHome
  | _ => (wrapMark? name).map wrapPath

def copyDirNamed? (name : String) : Option DirectoryCopy :=
  match name with
  | "unix_copydir" => some unixCopyDir
  | "windows_copydir" => some windowsCopyDir
  | _ => (wrapMark? name).map wrapCopyDir

def spell? (name : String) (paths : List String) : Option Value :=
  match copyDirNamed? name, pathNamed? name, paths with
  | some copy, _, [source, target] => some (.texts (copy source target))
  | _, some spell, [path] => some (.text (spell path))
  | _, _, _ => none

end Platform
end BuildMatrix
