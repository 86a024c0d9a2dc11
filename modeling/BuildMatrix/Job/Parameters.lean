import BuildMatrix.Template.Basic
import BuildMatrix.Value.Checked
import BuildMatrix.Value.Order

namespace BuildMatrix

inductive Parameter where
  | fixed (value : Value)
  | computed (rule : JobTemplate → Value)
deriving Inhabited

def Parameter.at (parameter : Parameter) (template : JobTemplate) : Value :=
  match parameter with
  | .fixed value => value
  | .computed rule => rule template

-- Only commands are asked of a rule. Where anything else is expected it stands for
-- itself, as something that is there and is not text.
def Parameter.truthy : Parameter → Bool
  | .fixed value => value.truthy
  | .computed _ => true

def Parameter.fixed? : Parameter → Option Value
  | .fixed value => some value
  | .computed _ => none

def Parameter.text? : Parameter → Option String
  | .fixed value => value.text?
  | .computed _ => none

structure StrayName where
  name : Value
  place : Nat
deriving Inhabited

-- Parameters by name. Data may also bring names that are not text: no kind of
-- job accepts them, so they are kept without their values.
structure Parameters where
  named : Mapping Parameter
  strays : List StrayName := []
deriving Inhabited

namespace Parameters

instance : EmptyCollection Parameters := ⟨⟨∅, []⟩⟩

def ofList (rows : List (String × Parameter)) : Parameters := ⟨.ofList rows, []⟩

def straysAt (parameters : Parameters) (place : Nat) : List Value :=
  (parameters.strays.filter fun stray => stray.place == place).map StrayName.name

def names (parameters : Parameters) : List Value :=
  (parameters.named.keys.zipIdx.flatMap fun (name, place) => parameters.straysAt place ++ [.text name])
    ++ parameters.straysAt parameters.named.size

def set (parameters : Parameters) (name value : Value) : Parameters :=
  match name with
  | .text name => { parameters with named := parameters.named.insert name (.fixed value) }
  | stray =>
      if parameters.strays.any fun held => held.name.sameKey stray then parameters
      else { parameters with strays := parameters.strays ++ [⟨stray, parameters.named.size⟩] }

def valueAt? (parameters : Parameters) (name : String) (template : JobTemplate) : Option Value :=
  (parameters.named.get? name).map fun parameter => parameter.at template

end Parameters

inductive GivenParameters where
  | named (parameters : Parameters)
  | data (given : Value)
deriving Inhabited

namespace GivenParameters

def pair (index : Nat) (item : Value) : Except Failure (Value × Value) := do
  match item.items? with
  | none => throw (.notSequence index)
  | some [name, value] => return (← name.key, value)
  | some parts => throw (.notPair index parts.length)

def read : GivenParameters → Except Failure Parameters
  | .named parameters => .ok parameters
  | .data given => do
      if !given.truthy then return ∅
      match given with
      | .table rows => return .ofList (rows.map fun row => (row.1, .fixed row.2))
      | other => do
          let items ← other.items
          let rows ← (items.zipIdx).mapM fun (item, index) => pair index item
          return rows.foldl (fun parameters row => parameters.set row.1 row.2) ∅

end GivenParameters
end BuildMatrix
