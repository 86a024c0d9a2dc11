namespace BuildMatrix

-- A fraction in decimal notation: the digits read as one number, of
-- which the last `places` stand behind the point.
structure Decimal where
  negative : Bool
  digits : Nat
  places : Nat
deriving DecidableEq, Repr

def Decimal.normal (negative : Bool) (digits : Nat) : Nat → Decimal
  | 0 => ⟨negative, digits * 10, 1⟩
  | 1 => ⟨negative, digits, 1⟩
  | places + 2 =>
      if digits % 10 = 0 then Decimal.normal negative (digits / 10) (places + 1)
      else ⟨negative, digits, places + 2⟩

namespace Decimal

def written (decimal : Decimal) : List Char := (toString decimal.digits).toList

def power (decimal : Decimal) : Int :=
  Int.ofNat decimal.written.length - 1 - Int.ofNat decimal.places

def positional (decimal : Decimal) : List Char :=
  let padded := List.replicate (decimal.places + 1 - decimal.written.length) '0' ++ decimal.written
  let whole := padded.length - decimal.places
  padded.take whole ++ '.' :: padded.drop whole

def exponent (power : Int) : List Char :=
  let size := (toString power.natAbs).toList
  'e' :: (if power < 0 then '-' else '+') :: (List.replicate (2 - size.length) '0' ++ size)

def scientific (decimal : Decimal) : List Char :=
  let significant := (decimal.written.reverse.dropWhile (· == '0')).reverse
  match significant with
  | first :: second :: rest => first :: '.' :: second :: rest ++ exponent decimal.power
  | digits => digits ++ exponent decimal.power

def chars (decimal : Decimal) : List Char :=
  (if decimal.negative then ['-'] else [])
    ++ if decimal.digits = 0 ∨ (-4 ≤ decimal.power ∧ decimal.power < 16) then decimal.positional
      else decimal.scientific

end Decimal

inductive Value where
  | null
  | bool (flag : Bool)
  | int (number : Int)
  | real (number : Decimal)
  | text (string : String)
  | list (items : List Value)
  | table (rows : List (String × Value))
deriving Inhabited

namespace Value

def texts (items : List String) : Value := .list (items.map .text)

def ofOption : Option Value → Value
  | none => .null
  | some value => value

def optionText (given : Option String) : Value := ofOption (given.map .text)

def truthy : Value → Bool
  | .null => false
  | .bool flag => flag
  | .int number => number != 0
  | .real number => number.digits != 0
  | .text string => !string.isEmpty
  | .list items => !items.isEmpty
  | .table rows => !rows.isEmpty

def typeName : Value → String
  | .null => "NoneType"
  | .bool _ => "bool"
  | .int _ => "int"
  | .real _ => "float"
  | .text _ => "str"
  | .list _ => "list"
  | .table _ => "dict"

def text? : Value → Option String
  | .text string => some string
  | _ => none

def list? : Value → Option (List Value)
  | .list items => some items
  | _ => none

def table? : Value → Option (List (String × Value))
  | .table rows => some rows
  | _ => none

def field? (value : Value) (key : String) : Option Value :=
  value.table?.bind (·.lookup key)

def items? : Value → Option (List Value)
  | .list items => some items
  | .text string => some (string.toList.map fun c => .text (String.singleton c))
  | .table rows => some (rows.map fun row => .text row.1)
  | _ => none

end Value
end BuildMatrix
