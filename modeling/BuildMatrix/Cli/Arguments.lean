namespace BuildMatrix

namespace Cli

-- A short form belongs only to an option that takes a value.
structure OptionForm where
  long : String
  short : Option Char := none
  takesValue : Bool
deriving DecidableEq, Repr

inductive Word where
  | separator
  | plain
  | flag (long : String)
  | assigned (long value : String)
  | awaiting (long : String)
  | refused
deriving DecidableEq, Repr

def longWord (forms : List OptionForm) (word : List Char) : Option Word :=
  let name := String.ofList (word.takeWhile (· != '='))
  (forms.find? fun form => form.long == name).map fun form =>
    match word.dropWhile (· != '='), form.takesValue with
    | [], true => .awaiting form.long
    | [], false => .flag form.long
    | _ :: value, true => .assigned form.long (String.ofList value)
    | _ :: _, false => .refused

def shortWord (forms : List OptionForm) (word : List Char) : Word :=
  match word with
  | _ :: letter :: rest =>
      match forms.find? fun form => form.short == some letter with
      | none => .refused
      | some form => if rest.isEmpty then .awaiting form.long else .assigned form.long (String.ofList rest)
  | _ => .refused

def readWord (forms : List OptionForm) (word : String) : Word :=
  match word.toList with
  | ['-', '-'] => .separator
  | '-' :: letter :: rest =>
      match longWord forms ('-' :: letter :: rest) with
      | some meant => meant
      | none => if letter = '-' then .refused else shortWord forms ('-' :: letter :: rest)
  | _ => .plain

structure Given where
  flags : List String := []
  values : List (String × String) := []
  plain : List String := []
deriving DecidableEq, Repr

def Given.has (given : Given) (long : String) : Bool := given.flags.contains long

def Given.value? (given : Given) (long : String) : Option String :=
  (given.values.reverse.find? fun row => row.1 == long).map Prod.snd

-- Reads words one by one. An option that awaits its value takes whatever comes
-- next. Without `mixed` the first plain word ends the options.
def readWords (forms : List OptionForm) (mixed : Bool) :
    Option String → Given → List String → Option Given
  | none, given, [] => some given
  | some _, _, [] => none
  | some long, given, value :: rest =>
      readWords forms mixed none { given with values := given.values ++ [(long, value)] } rest
  | none, given, word :: rest =>
      match readWord forms word with
      | .separator => some { given with plain := given.plain ++ rest }
      | .plain =>
          if mixed then readWords forms mixed none { given with plain := given.plain ++ [word] } rest
          else some { given with plain := given.plain ++ word :: rest }
      | .flag long => readWords forms mixed none { given with flags := given.flags ++ [long] } rest
      | .assigned long value =>
          readWords forms mixed none { given with values := given.values ++ [(long, value)] } rest
      | .awaiting long => readWords forms mixed (some long) given rest
      | .refused => none

inductive Request where
  | generate (matrix output : Option String) (compact : Bool)
  | check (matrix : Option String)
  | plan (matrix blockedBy : Option String)
deriving DecidableEq, Repr

def Request.matrix : Request → Option String
  | .generate matrix _ _ => matrix
  | .check matrix => matrix
  | .plan matrix _ => matrix

structure Invocation where
  debug : Bool
  request : Request
deriving DecidableEq, Repr

def debugForm : OptionForm := { long := "--debug", takesValue := false }
def matrixForm : OptionForm := { long := "--matrix", takesValue := true }
def outputForm : OptionForm := { long := "--output", short := some 'o', takesValue := true }
def compactForm : OptionForm := { long := "--compact", takesValue := false }
def blockedByForm : OptionForm := { long := "--blocked-by", takesValue := true }

-- A variable that is set to nothing names no matrix; an option does.
def matrixOf (lookup : String → Option String) (given : Given) : Option String :=
  match given.value? "--matrix" with
  | some path => some path
  | none => (lookup "LABCI_MATRIX").filter fun path => !path.isEmpty

def readRequest (lookup : String → Option String) (command : String) (words : List String) :
    Option Request := do
  let read (forms : List OptionForm) : Option Given := do
    let given ← readWords forms true none {} words
    if given.plain.isEmpty then some given else none
  match command with
  | "generate" =>
      let given ← read [matrixForm, outputForm, compactForm]
      return .generate (matrixOf lookup given) (given.value? "--output") (given.has "--compact")
  | "check" =>
      let given ← read [matrixForm]
      return .check (matrixOf lookup given)
  | "plan" =>
      let given ← read [matrixForm, blockedByForm]
      return .plan (matrixOf lookup given) (given.value? "--blocked-by")
  | _ => none

def readArguments (lookup : String → Option String) (words : List String) : Option Invocation := do
  let given ← readWords [debugForm] false none {} words
  match given.plain with
  | [] => none
  | command :: rest =>
      let request ← readRequest lookup command rest
      return ⟨given.has "--debug", request⟩

end Cli
end BuildMatrix
