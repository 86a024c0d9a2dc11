import BuildMatrix.Matrix.Basic

namespace BuildMatrix

namespace MatrixFile

-- What a global of a matrix file is set to. Matrices and registries are made
-- when the file is run, the body of a function when it is called.
inductive Expression where
  | list (items : List Expression)
  | tuple (items : List Expression)
  | matrix (made : Except Failure Matrix)
  | registry (made : Except Failure Registry)
  | data (value : Value)
  | fail (report : Report)
  | function (body : Expression)

inductive Object where
  | list (items : List Object)
  | tuple (items : List Object)
  | matrix (made : Matrix)
  | registry (made : Registry)
  | data (value : Value)
  | function (body : Expression)

mutual
def run : Expression → Except Failure Object
  | .list items => do return .list (← runItems items)
  | .tuple items => do return .tuple (← runItems items)
  | .matrix made => do return .matrix (← made)
  | .registry made => do return .registry (← made)
  | .data value => .ok (.data value)
  | .fail report => .error (.raised report)
  | .function body => .ok (.function body)
def runItems : List Expression → Except Failure (List Object)
  | [] => .ok []
  | item :: rest => do
      let first ← run item
      let others ← runItems rest
      return first :: others
end

abbrev Source := List (String × Expression)

def runSource (source : Source) : Except Failure (List (String × Object)) :=
  source.mapM fun (name, expression) => do return (name, ← run expression)

namespace Object

def typeName : Object → String
  | .list _ => "list"
  | .tuple _ => "tuple"
  | .matrix _ => "Matrix"
  | .registry _ => "TraitRegistry"
  | .data value => value.typeName
  | .function _ => "function"

def matrix? : Object → Option Matrix
  | .matrix made => some made
  | _ => none

-- A list of matrices and of nothing else. Plain data is one only if empty.
def matrices? : Object → Option (List Matrix)
  | .list items => items.mapM matrix?
  | .data (.list []) => some []
  | _ => none

end Object
end MatrixFile
end BuildMatrix
