import BuildMatrix.Description.Parts
import BuildMatrix.MatrixFile.Source

namespace BuildMatrix

namespace Description

def detail (description : Value) : Except Failure (String × String) :=
  match description with
  | .list [key, value] => do return ((← key.key).display, value.display)
  | _ => .error (.malformed "details")

def reportDetails (description : Value) : Except Failure (List (String × String)) := do
  let rows ← (← description.items).mapM detail
  return placeRows [] rows

def report (scope : Scope) (description : Value) : Except Failure Report := do
  let details ← match given? description "details" with
    | none => pure []
    | some rows => reportDetails rows
  let word ← textField description "type" ""
  let message ← textField description "message" ""
  return { scope.raised word message with details := details }

def registryExpression (scope : Scope) (description : Value) : MatrixFile.Expression :=
  if isNull description then .data .null
  else .registry do return (← registry scope description).getD Registry.catalogue

-- The globals of a matrix file. What cannot be made fails when the file is run,
-- and not before.
mutual
def expression (scope : Scope) : Value → Except Failure MatrixFile.Expression
  | .table [("list", .list items)] => do return .list (← expressions scope items)
  | .table [("tuple", .list items)] => do return .tuple (← expressions scope items)
  | .table [("matrix", description)] => .ok (.matrix (matrix scope description))
  | .table [("registry", description)] => .ok (registryExpression scope description)
  | .table [("json", value)] => .ok (.data value)
  | .table [("raise", description)] => do return .fail (← report scope description)
  | .table [("call", body)] => do return .function (← expression scope body)
  | _ => .error (.malformed "global")
def expressions (scope : Scope) : List Value → Except Failure (List MatrixFile.Expression)
  | [] => .ok []
  | item :: rest => do
      let first ← expression scope item
      let others ← expressions scope rest
      return first :: others
end

def source (scope : Scope) (description : Value) : Except Failure MatrixFile.Source :=
  match description with
  | .table rows => rows.mapM fun (name, value) => do return (name, ← expression scope value)
  | _ => .error (.malformed "matrix file")

end Description
end BuildMatrix
