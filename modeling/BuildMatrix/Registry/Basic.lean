import BuildMatrix.Trait
import BuildMatrix.Value.Checked

namespace BuildMatrix

-- Traits under the names by which combinations call them, and the names that
-- every combination starts from. A base name is never unknown.
structure Registry where
  traits : Mapping Trait
  base : List String
  base_known : ∀ name ∈ base, traits.contains name = true

namespace Registry

def empty : Registry := ⟨∅, [], by simp⟩

instance : Inhabited Registry := ⟨empty⟩

def names (registry : Registry) : List String := registry.traits.keys
def isEmpty (registry : Registry) : Bool := registry.traits.isEmpty
def contains (registry : Registry) (name : String) : Bool := registry.traits.contains name

def unknown (traits : Mapping Trait) (asked : Value) : Failure :=
  .unknownTrait asked (traits.keys.mergeSort fun a b => decide (a ≤ b))

def make (traits : Mapping Trait) (base : List String) : Except Failure Registry :=
  match missing : base.find? fun name => !traits.contains name with
  | some name => .error (unknown traits (.text name))
  | none => .ok ⟨traits, base, fun name present => by
      simpa using List.find?_eq_none.mp missing name present⟩

def get (registry : Registry) (name : String) : Except Failure Trait :=
  match registry.traits.get? name with
  | some trait => .ok trait
  | none => .error (unknown registry.traits (.text name))

-- Only a text is ever a name, but anything that could be a key may be asked.
def getValue (registry : Registry) (asked : Value) : Except Failure Trait := do
  match ← asked.key with
  | .text name => registry.get name
  | other => throw (unknown registry.traits other)

def ofValues (traits : Mapping Trait) (base : Value) : Except Failure Registry := do
  let names ← (← base.items).mapM fun asked => do
    match ← asked.key with
    | .text name => if traits.contains name then return name else throw (unknown traits asked)
    | other => throw (unknown traits other)
  make traits names

def containsValue (registry : Registry) (asked : Value) : Except Failure Bool := do
  match ← asked.key with
  | .text name => return registry.contains name
  | _ => return false

def getAll (registry : Registry) (names : List String) : Except Failure (List Trait) :=
  names.mapM registry.get

def resolve (registry : Registry) (names : List String) : Except Failure (List Trait) :=
  registry.getAll (registry.base ++ names)

end Registry
end BuildMatrix
