import BuildMatrix.Mapping
import BuildMatrix.Value.Basic

namespace BuildMatrix.Json

def isSpace (c : Char) : Bool := c == ' ' || c == '\n' || c == '\r' || c == '\t'

def skipSpace (chars : List Char) : List Char := chars.dropWhile isSpace

def hexValue? (c : Char) : Option Nat :=
  if '0' ≤ c ∧ c ≤ '9' then some (c.toNat - 0x30)
  else if 'a' ≤ c ∧ c ≤ 'f' then some (c.toNat - 0x57)
  else if 'A' ≤ c ∧ c ≤ 'F' then some (c.toNat - 0x37)
  else none

def readHex4 : List Char → Option (Nat × List Char)
  | a :: b :: c :: d :: rest => do
      let a ← hexValue? a
      let b ← hexValue? b
      let c ← hexValue? c
      let d ← hexValue? d
      some (((a * 16 + b) * 16 + c) * 16 + d, rest)
  | _ => none

-- A surrogate stands for a character only as the first of a proper pair.
def readUnit (chars : List Char) : Option (Char × List Char) := do
  let (unit, rest) ← readHex4 chars
  if 0xd800 ≤ unit ∧ unit < 0xdc00 then
    match rest with
    | '\\' :: 'u' :: rest => do
        let (low, rest) ← readHex4 rest
        if 0xdc00 ≤ low ∧ low < 0xe000 then
          some (Char.ofNat (0x10000 + (unit - 0xd800) * 0x400 + (low - 0xdc00)), rest)
        else none
    | _ => none
  else if 0xdc00 ≤ unit ∧ unit < 0xe000 then none
  else some (Char.ofNat unit, rest)

def readEscape : List Char → Option (Char × List Char)
  | '\x22' :: rest => some ('\x22', rest)
  | '\\' :: rest => some ('\\', rest)
  | '/' :: rest => some ('/', rest)
  | 'n' :: rest => some ('\n', rest)
  | 'r' :: rest => some ('\r', rest)
  | 't' :: rest => some ('\t', rest)
  | 'b' :: rest => some ('\x08', rest)
  | 'f' :: rest => some ('\x0c', rest)
  | 'u' :: rest => readUnit rest
  | _ => none

-- The characters up to the closing quote. Each takes at least one character of
-- the input, so the length of the input is fuel enough.
def readChars : Nat → List Char → Option (List Char × List Char)
  | 0, _ => none
  | _ + 1, [] => none
  | fuel + 1, c :: rest =>
      if c = '\x22' then some ([], rest)
      else if c = '\\' then do
        let (escaped, rest) ← readEscape rest
        let (tail, rest) ← readChars fuel rest
        some (escaped :: tail, rest)
      else if c.toNat < 0x20 then none
      else do
        let (tail, rest) ← readChars fuel rest
        some (c :: tail, rest)

def readText (chars : List Char) : Option (String × List Char) := do
  let (string, rest) ← readChars (chars.length + 1) chars
  some (String.ofList string, rest)

def isDigit (c : Char) : Bool := decide ('0' ≤ c) && decide (c ≤ '9')

def number (digits : List Char) : Nat :=
  digits.foldl (fun n c => n * 10 + (c.toNat - 0x30)) 0

def readWhole (chars : List Char) : Option (List Char × List Char) :=
  match chars.takeWhile isDigit with
  | [] => none
  | '0' :: _ :: _ => none
  | digits => some (digits, chars.dropWhile isDigit)

def readFraction : List Char → Option (List Char × List Char)
  | '.' :: rest =>
      match rest.takeWhile isDigit with
      | [] => none
      | digits => some (digits, rest.dropWhile isDigit)
  | chars => some ([], chars)

def readExponentDigits (negative : Bool) (chars : List Char) : Option (Int × List Char) :=
  match chars.takeWhile isDigit with
  | [] => none
  | digits =>
      if digits.length ≤ 3 then
        let size := Int.ofNat (number digits)
        some (if negative then -size else size, chars.dropWhile isDigit)
      else none

def readExponent : List Char → Option (Option Int × List Char)
  | c :: rest =>
      if c = 'e' ∨ c = 'E' then do
        let (power, rest) ← match rest with
          | '+' :: rest => readExponentDigits false rest
          | '-' :: rest => readExponentDigits true rest
          | rest => readExponentDigits false rest
        some (some power, rest)
      else some (none, c :: rest)
  | [] => some (none, [])

def readUnsigned (negative : Bool) (chars : List Char) : Option (Value × List Char) := do
  let (whole, rest) ← readWhole chars
  let (fraction, rest) ← readFraction rest
  let (power, rest) ← readExponent rest
  let digits := number (whole ++ fraction)
  match fraction, power with
  | [], none => some (.int (if negative then -Int.ofNat digits else Int.ofNat digits), rest)
  | _, _ =>
      let shift := power.getD 0 - Int.ofNat fraction.length
      if 0 ≤ shift then some (.real (Decimal.normal negative (digits * Nat.pow 10 shift.toNat) 0), rest)
      else some (.real (Decimal.normal negative digits (-shift).toNat), rest)

def readNumber : List Char → Option (Value × List Char)
  | '-' :: rest => readUnsigned true rest
  | chars => readUnsigned false chars

-- A value takes two units of fuel for every character it spans, so twice the
-- length of the input is fuel enough.
mutual
def readValue : Nat → List Char → Option (Value × List Char)
  | 0, _ => none
  | fuel + 1, chars =>
      match skipSpace chars with
      | 'n' :: 'u' :: 'l' :: 'l' :: rest => some (.null, rest)
      | 't' :: 'r' :: 'u' :: 'e' :: rest => some (.bool true, rest)
      | 'f' :: 'a' :: 'l' :: 's' :: 'e' :: rest => some (.bool false, rest)
      | '\x22' :: rest => do
          let (string, rest) ← readText rest
          some (.text string, rest)
      | '[' :: rest =>
          match skipSpace rest with
          | ']' :: rest => some (.list [], rest)
          | rest => do
              let (items, rest) ← readItems fuel rest
              some (.list items, rest)
      | '\x7b' :: rest =>
          match skipSpace rest with
          | '\x7d' :: rest => some (.table [], rest)
          | rest => do
              let (rows, rest) ← readRows fuel rest
              some (.table (placeRows [] rows), rest)
      | chars => readNumber chars
def readItems : Nat → List Char → Option (List Value × List Char)
  | 0, _ => none
  | fuel + 1, chars => do
      let (item, rest) ← readValue fuel chars
      match skipSpace rest with
      | ',' :: rest => do
          let (items, rest) ← readItems fuel rest
          some (item :: items, rest)
      | ']' :: rest => some ([item], rest)
      | _ => none
def readRows : Nat → List Char → Option (List (String × Value) × List Char)
  | 0, _ => none
  | fuel + 1, chars =>
      match skipSpace chars with
      | '\x22' :: rest => do
          let (key, rest) ← readText rest
          match skipSpace rest with
          | ':' :: rest => do
              let (value, rest) ← readValue fuel rest
              match skipSpace rest with
              | ',' :: rest => do
                  let (rows, rest) ← readRows fuel rest
                  some ((key, value) :: rows, rest)
              | '\x7d' :: rest => some ([(key, value)], rest)
              | _ => none
          | _ => none
      | _ => none
end

def read? (text : String) : Option Value := do
  let chars := text.toList
  let (value, rest) ← readValue (2 * chars.length + 2) chars
  match skipSpace rest with
  | [] => some value
  | _ => none

end BuildMatrix.Json
