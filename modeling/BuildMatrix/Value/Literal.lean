import BuildMatrix.Text.Quoted
import BuildMatrix.Value.Basic

namespace BuildMatrix.Value

def bracketed (opening : String) (parts : List String) (closing : String) : String :=
  opening ++ ", ".intercalate parts ++ closing

mutual
def literal : Value → String
  | .null => "None"
  | .bool flag => if flag then "True" else "False"
  | .int number => toString number
  | .real number => String.ofList number.chars
  | .text string => Text.quoted string
  | .list items => bracketed "[" (literals items) "]"
  | .table rows => bracketed "\x7b" (rowLiterals rows) "\x7d"
def literals : List Value → List String
  | [] => []
  | item :: rest => literal item :: literals rest
def rowLiterals : List (String × Value) → List String
  | [] => []
  | (key, value) :: rest => (Text.quoted key ++ ": " ++ literal value) :: rowLiterals rest
end

def display : Value → String
  | .text string => string
  | value => value.literal

end BuildMatrix.Value
