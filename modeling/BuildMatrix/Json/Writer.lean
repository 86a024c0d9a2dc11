import BuildMatrix.Text.Quoted
import BuildMatrix.Value.Basic

namespace BuildMatrix

mutual
def Value.sortKeys : Value → Value
  | .list items => .list (Value.sortKeysItems items)
  | .table rows => .table ((Value.sortKeysRows rows).mergeSort fun a b => decide (a.1 ≤ b.1))
  | value => value
def Value.sortKeysItems : List Value → List Value
  | [] => []
  | item :: rest => Value.sortKeys item :: Value.sortKeysItems rest
def Value.sortKeysRows : List (String × Value) → List (String × Value)
  | [] => []
  | (key, value) :: rest => (key, Value.sortKeys value) :: Value.sortKeysRows rest
end

namespace Json

def escape (c : Char) : List Char :=
  if c = '\x22' then ['\\', '\x22']
  else if c = '\\' then ['\\', '\\']
  else if c = '\n' then ['\\', 'n']
  else if c = '\r' then ['\\', 'r']
  else if c = '\t' then ['\\', 't']
  else if c = '\x08' then ['\\', 'b']
  else if c = '\x0c' then ['\\', 'f']
  else if c.toNat < 0x20 then '\\' :: 'u' :: Text.hex 4 c.toNat
  else [c]

def writeText (string : String) : List Char :=
  '\x22' :: (string.toList.flatMap escape ++ ['\x22'])

inductive Layout where
  | line
  | indented (width : Nat)
deriving DecidableEq, Repr

namespace Layout

def breakAt : Layout → Nat → List Char
  | .line, _ => []
  | .indented width, depth => '\n' :: List.replicate (width * depth) ' '

def separator : Layout → Nat → List Char
  | .line, _ => [',', ' ']
  | .indented width, depth => ',' :: breakAt (.indented width) depth

end Layout

mutual
def write (layout : Layout) (depth : Nat) : Value → List Char
  | .null => ['n', 'u', 'l', 'l']
  | .bool flag => if flag then ['t', 'r', 'u', 'e'] else ['f', 'a', 'l', 's', 'e']
  | .int number => (toString number).toList
  | .real number => number.chars
  | .text string => writeText string
  | .list [] => ['[', ']']
  | .list (item :: rest) =>
      '[' :: (layout.breakAt (depth + 1) ++ write layout (depth + 1) item
        ++ writeItems layout (depth + 1) rest ++ layout.breakAt depth ++ [']'])
  | .table [] => ['\x7b', '\x7d']
  | .table ((key, value) :: rest) =>
      '\x7b' :: (layout.breakAt (depth + 1) ++ writeText key ++ ':' :: ' ' :: write layout (depth + 1) value
        ++ writeRows layout (depth + 1) rest ++ layout.breakAt depth ++ ['\x7d'])
def writeItems (layout : Layout) (depth : Nat) : List Value → List Char
  | [] => []
  | item :: rest => layout.separator depth ++ write layout depth item ++ writeItems layout depth rest
def writeRows (layout : Layout) (depth : Nat) : List (String × Value) → List Char
  | [] => []
  | (key, value) :: rest =>
      layout.separator depth ++ writeText key ++ ':' :: ' ' :: write layout depth value
        ++ writeRows layout depth rest
end

def line (value : Value) : String := String.ofList (write .line 0 value)

def document (layout : Layout) (value : Value) : String :=
  String.ofList (write layout 0 value.sortKeys ++ ['\n'])

end Json
end BuildMatrix
