import BuildMatrix.Mapping
import BuildMatrix.Value.Checked

namespace BuildMatrix

namespace Description

-- Reading the fields of a table. An absent field takes its default; a field of
-- the wrong shape makes the description malformed. Where a list is expected,
-- anything that can be walked through will do.

def isNull : Value → Bool
  | .null => true
  | _ => false

def given? (table : Value) (key : String) : Option Value :=
  (table.field? key).filter fun value => !isNull value

def text (what : String) : Value → Except Failure String
  | .text string => .ok string
  | _ => .error (.malformed what)

def flag (what : String) : Value → Except Failure Bool
  | .bool flag => .ok flag
  | _ => .error (.malformed what)

def texts (what : String) (value : Value) : Except Failure (List String) := do
  (← value.items).mapM (text what)

def textField (table : Value) (key default : String) : Except Failure String :=
  match table.field? key with
  | none => .ok default
  | some value => text key value

def flagField (table : Value) (key : String) (default : Bool) : Except Failure Bool :=
  match table.field? key with
  | none => .ok default
  | some value => flag key value

def optionalText (table : Value) (key : String) : Except Failure (Option String) :=
  match given? table key with
  | none => .ok none
  | some value => return some (← text key value)

def textsField (table : Value) (key : String) (default : List String) :
    Except Failure (List String) :=
  match table.field? key with
  | none => .ok default
  | some value => texts key value

def listField (table : Value) (key : String) : Except Failure (List Value) :=
  match table.field? key with
  | none => .ok []
  | some value => value.items

def pair {α : Type} (what : String) (read : Value → Except Failure α) :
    Value → Except Failure (String × α)
  | .list [key, value] => do return (← text what key, ← read value)
  | _ => .error (.malformed what)

def mappingField {α : Type} (table : Value) (key : String) (read : Value → Except Failure α) :
    Except Failure (Mapping α) := do
  return .ofList (← (← listField table key).mapM (pair key read))

end Description
end BuildMatrix
