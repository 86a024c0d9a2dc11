import BuildMatrix.Failure

namespace BuildMatrix

-- An argument is a text, or a command whose output stands in its place.
inductive Argument where
  | text (string : String)
  | output (arguments : List Argument)
deriving Inhabited

abbrev Command := List Argument

instance : Coe String Argument := ⟨.text⟩

namespace Command

mutual
def argumentValue : Argument → Value
  | .text string => .text string
  | .output arguments => .list (argumentValues arguments)
def argumentValues : List Argument → List Value
  | [] => []
  | argument :: rest => argumentValue argument :: argumentValues rest
end

def toValue (command : Command) : Value := .list (argumentValues command)

def ofTexts (texts : List String) : Command := texts.map .text

-- Reads a command from data. A command is a list and never empty, at every
-- depth; the first fault from the left, outside before inside, is reported.
mutual
def argument (job : String) : Value → Except Failure Argument
  | .text string => .ok (.text string)
  | .list items => do
      let read ← arguments job items
      if read.isEmpty then throw (.commandEmpty job)
      return .output read
  | value => .error (.commandNotList job value)
def arguments (job : String) : List Value → Except Failure (List Argument)
  | [] => .ok []
  | item :: rest => do
      let first ← argument job item
      let others ← arguments job rest
      return first :: others
end

def ofValue (job : String) : Value → Except Failure Command
  | .list items => do
      let read ← arguments job items
      if read.isEmpty then throw (.commandEmpty job)
      return read
  | value => .error (.commandNotList job value)

end Command

-- Steps are kept as they were given and written out without any check: an
-- argument that is not a text is walked through, which fails for a scalar.
mutual
def Value.walked : Value → Except Failure Value
  | .text string => .ok (.texts (string.toList.map String.singleton))
  | .list items => do
      let written ← Value.walkedItems items
      return .list written
  | .table rows => .ok (.texts (rows.map Prod.fst))
  | value => .error (.notIterable value)
def Value.walkedItems : List Value → Except Failure (List Value)
  | [] => .ok []
  | .text string :: rest => do
      let others ← Value.walkedItems rest
      return .text string :: others
  | item :: rest => do
      let first ← Value.walked item
      let others ← Value.walkedItems rest
      return first :: others
end

end BuildMatrix
