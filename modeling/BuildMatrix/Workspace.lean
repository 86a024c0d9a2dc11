import BuildMatrix.Failure

namespace BuildMatrix

namespace Path

def parts : List Char → List (List Char)
  | [] => [[]]
  | c :: rest =>
      match parts rest with
      | [] => []
      | part :: others => if c = '/' then [] :: part :: others else (c :: part) :: others

def names (path : String) : List String :=
  ((parts path.toList).map String.ofList).filter fun name => name != "" && name != "."

def isAbsolute (path : String) : Bool := path.toList.head? == some '/'

def plain (path : String) : String :=
  (if isAbsolute path then "/" else "") ++ "/".intercalate (names path)

-- Lengths count bytes. A name has at most 255 of them, a path at most 4095.
def isLongName (name : String) : Bool := decide (255 < name.utf8ByteSize)
def isLong (path : String) : Bool := decide (4095 < path.utf8ByteSize)

def isBroken (path : String) : Bool := path.toList.contains '\x00'

-- One name further; two dots lead up, and the top is above itself.
def step (place : List String) (name : String) : List String :=
  if name = ".." then place.dropLast else place ++ [name]

-- Names alone decide; nothing along the way has to exist.
def resolve (start : List String) (path : String) : List String :=
  (names path).foldl step (if isAbsolute path then [] else start)

def above (place : List String) : List (List String) :=
  (List.range place.length).map fun depth => place.take depth

def lastName (place : List String) : String := place.getLast?.getD ""

-- What follows the last dot of a name, with the dot, unless that dot is the
-- first or the last character.
def suffix (name : String) : String :=
  let behind := name.toList.reverse.takeWhile (· != '.')
  let before := name.length - behind.length - 1
  if behind.isEmpty || behind.length = name.length || before = 0 then ""
  else String.ofList ('.' :: behind.reverse)

end Path

inductive Entry (α : Type) where
  | directory
  | file (contents : α)

-- What a run of the program sees of the files around it. The working directory
-- is told by the text in `shown`, whatever its real place is. Homes are known by
-- the names of their users, the own one by no name.
structure Workspace (α : Type) where
  root : List String
  shown : String
  files : List (List String × α)
  directories : List (List String)
  homes : List (String × String) := []

namespace Workspace

variable {α : Type}

def ofFiles (root : List String) (shown : String) (files : List (List String × α)) : Workspace α :=
  { root := root, shown := shown, files := files
    directories := (files.flatMap fun file => Path.above file.1).eraseDups }

def isDirectory (workspace : Workspace α) (place : List String) : Bool :=
  place.isPrefixOf workspace.root || workspace.directories.contains place

def file? (workspace : Workspace α) (place : List String) : Option α :=
  (workspace.files.reverse.find? fun file => file.1 == place).map Prod.snd

def entry? (workspace : Workspace α) (place : List String) : Option (Entry α) :=
  if workspace.isDirectory place then some .directory else (workspace.file? place).map .file

def render (workspace : Workspace α) (place : List String) : String :=
  if workspace.root.isPrefixOf place then
    "/".intercalate (workspace.shown :: place.drop workspace.root.length)
  else "/" ++ "/".intercalate place

-- A home as its path begins with it: no slash at its end, and the top if nothing
-- is left. One that is told by yet another home is not followed.
def home (workspace : Workspace α) (user : String) : Except Failure String :=
  match workspace.homes.lookup user with
  | none => .error .homeUnknown
  | some given =>
      match (given.toList.reverse.dropWhile (· == '/')).reverse with
      | [] => .ok "/"
      | '~' :: _ => .error .homeUnknown
      | trimmed => .ok (String.ofList trimmed)

def expandHome (workspace : Workspace α) (path : String) : Except Failure String :=
  match Path.names path, Path.isAbsolute path with
  | first :: rest, false =>
      match first.toList with
      | '~' :: user => do
          if Path.isBroken first then throw .pathBroken
          return "/".intercalate ((← workspace.home (String.ofList user)) :: rest)
      | _ => .ok path
  | _, _ => .ok path

-- A place that nobody can ask for: a name in a directory that exists is too
-- long, or all of the path is.
def isLong (workspace : Workspace α) (place : List String) : Bool :=
  Path.isLong ("/" ++ "/".intercalate place)
    || ((Path.above place).zip place).any fun (above, name) =>
      workspace.isDirectory above && Path.isLongName name

def walk (workspace : Workspace α) : List String → List String → Except FailureKind (List String)
  | place, [] => .ok place
  | place, name :: rest =>
      if workspace.isDirectory place then
        if Path.isLongName name then .error .longPath else walk workspace (Path.step place name) rest
      else if (workspace.file? place).isSome then .error .blockedPath
      else .error .missingFile

def reach (workspace : Workspace α) (path : String) : Except FailureKind (List String) :=
  if Path.isLong (Path.plain path) then .error .longPath
  else workspace.walk (if Path.isAbsolute path then [] else workspace.root) (Path.names path)

def leadsToDirectory (workspace : Workspace α) (path : String) : Bool :=
  if path.isEmpty || Path.isLong path then false
  else
    match workspace.reach path with
    | .ok place => workspace.isDirectory place
    | .error _ => false

def destination (workspace : Workspace α) (path : String) : Except FailureKind (List String) := do
  let place ← workspace.reach path
  if workspace.isDirectory place then throw .directoryPath
  return place

end Workspace
end BuildMatrix
