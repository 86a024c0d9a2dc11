import BuildMatrix.Failure
import BuildMatrix.Mapping
import BuildMatrix.Platform

namespace BuildMatrix

def Value.items (value : Value) : Except Failure (List Value) :=
  match value.items? with
  | some items => .ok items
  | none => .error (.notIterable value)

def Value.key (value : Value) : Except Failure Value :=
  match value with
  | .list _ => .error (.notHashable value)
  | .table _ => .error (.notHashable value)
  | scalar => .ok scalar

def Os.ofValue (value : Value) : Except Failure Os :=
  match value.text?.bind Os.ofWord? with
  | some os => .ok os
  | none => .error (.notMember "OSTag" value)

def JobKind.ofValue (value : Value) : Except Failure JobKind :=
  match value.text?.bind JobKind.ofWord? with
  | some kind => .ok kind
  | none => .error (.unknownKind value)

end BuildMatrix
