import BuildMatrix.Json.Reader
import Mathlib.Data.List.Forall2

namespace BuildMatrix.Json

-- Which text stands for which value. Nothing here is said about how a text is
-- read or written: white space is free wherever the grammar has it, and a
-- character may be spelled in more than one way. Numbers are whole; fractions
-- and exponents are left out.

def Blank (chars : List Char) : Prop := ∀ c ∈ chars, isSpace c = true

inductive FourDigits : List Char → Nat → Prop where
  | digits {a b c d : Char} {first second third fourth : Nat} :
      hexValue? a = some first → hexValue? b = some second → hexValue? c = some third → hexValue? d = some fourth →
      FourDigits [a, b, c, d] (((first * 16 + second) * 16 + third) * 16 + fourth)

def shortEscapes : List (Char × Char) :=
  [('\x22', '\x22'), ('\\', '\\'), ('/', '/'), ('n', '\n'), ('r', '\r'), ('t', '\t'), ('b', '\x08'), ('f', '\x0c')]

-- What stands between quotes for one character. Those beyond the first plane are
-- spelled by two units, and no unit of such a pair stands alone.
inductive SpelledChar : List Char → Char → Prop where
  | plain {c : Char} : 0x20 ≤ c.toNat → c ≠ '\x22' → c ≠ '\\' → SpelledChar [c] c
  | short {mark c : Char} : (mark, c) ∈ shortEscapes → SpelledChar ['\\', mark] c
  | unit {digits : List Char} {code : Nat} : FourDigits digits code → code < 0xd800 ∨ 0xe000 ≤ code →
      SpelledChar ('\\' :: 'u' :: digits) (Char.ofNat code)
  | pair {digits others : List Char} {high low : Nat} : FourDigits digits high → FourDigits others low →
      0xd800 ≤ high → high < 0xdc00 → 0xdc00 ≤ low → low < 0xe000 →
      SpelledChar ('\\' :: 'u' :: (digits ++ '\\' :: 'u' :: others))
        (Char.ofNat (0x10000 + (high - 0xd800) * 0x400 + (low - 0xdc00)))

def Quotes (chars : List Char) (string : String) : Prop :=
  ∃ pieces, List.Forall₂ SpelledChar pieces string.toList ∧ chars = '\x22' :: (pieces.flatten ++ ['\x22'])

structure Numeral (digits : List Char) : Prop where
  filled : digits ≠ []
  decimal : ∀ c ∈ digits, isDigit c = true
  leading : ∀ rest, digits = '0' :: rest → rest = []

-- A key that comes again in a table takes the later value.
mutual
inductive Spells : List Char → Value → Prop where
  | null : Spells ['n', 'u', 'l', 'l'] .null
  | yes : Spells ['t', 'r', 'u', 'e'] (.bool true)
  | no : Spells ['f', 'a', 'l', 's', 'e'] (.bool false)
  | whole {digits : List Char} : Numeral digits → Spells digits (.int (Int.ofNat (number digits)))
  | negative {digits : List Char} : Numeral digits → Spells ('-' :: digits) (.int (-Int.ofNat (number digits)))
  | text {chars : List Char} {string : String} : Quotes chars string → Spells chars (.text string)
  | noItems {space : List Char} : Blank space → Spells ('[' :: (space ++ [']'])) (.list [])
  | items {chars : List Char} {items : List Value} : SpellsItems chars items →
      Spells ('[' :: (chars ++ [']'])) (.list items)
  | noRows {space : List Char} : Blank space → Spells ('\x7b' :: (space ++ ['\x7d'])) (.table [])
  | rows {chars : List Char} {rows : List (String × Value)} : SpellsRows chars rows →
      Spells ('\x7b' :: (chars ++ ['\x7d'])) (.table (placeRows [] rows))
inductive Padded : List Char → Value → Prop where
  | around {before chars after : List Char} {value : Value} : Blank before → Spells chars value → Blank after →
      Padded (before ++ (chars ++ after)) value
inductive SpellsItems : List Char → List Value → Prop where
  | last {chars : List Char} {item : Value} : Padded chars item → SpellsItems chars [item]
  | next {chars others : List Char} {item : Value} {items : List Value} : Padded chars item →
      SpellsItems others items → SpellsItems (chars ++ ',' :: others) (item :: items)
inductive SpellsRow : List Char → String × Value → Prop where
  | field {before name between chars : List Char} {key : String} {value : Value} : Blank before → Quotes name key →
      Blank between → Padded chars value → SpellsRow (before ++ (name ++ (between ++ ':' :: chars))) (key, value)
inductive SpellsRows : List Char → List (String × Value) → Prop where
  | last {chars : List Char} {row : String × Value} : SpellsRow chars row → SpellsRows chars [row]
  | next {chars others : List Char} {row : String × Value} {rows : List (String × Value)} : SpellsRow chars row →
      SpellsRows others rows → SpellsRows (chars ++ ',' :: others) (row :: rows)
end

def Document (text : String) (value : Value) : Prop := Padded text.toList value

theorem blank_nil : Blank [] := by
  intro c present
  cases present

theorem skipSpace_blank {before : List Char} (blank : Blank before) (rest : List Char) :
    skipSpace (before ++ rest) = skipSpace rest := List.dropWhile_append_of_pos blank

theorem skipSpace_solid {first : Char} (solid : isSpace first = false) (rest : List Char) :
    skipSpace (first :: rest) = first :: rest := List.dropWhile_cons_of_neg (by simp [solid])

theorem skipSpace_again (chars : List Char) : skipSpace (skipSpace chars) = skipSpace chars := by
  induction chars with
  | nil => rfl
  | cons first rest ih =>
      cases space : isSpace first with
      | true =>
          have dropped : skipSpace (first :: rest) = skipSpace rest := List.dropWhile_cons_of_pos space
          rw [dropped, ih]
      | false => rw [skipSpace_solid space, skipSpace_solid space]

theorem numeral_head {digits : List Char} (numeral : Numeral digits) :
    ∃ first rest, digits = first :: rest ∧ isDigit first = true := by
  cases digits with
  | nil => exact False.elim (numeral.filled rfl)
  | cons first rest => exact ⟨first, rest, rfl, numeral.decimal first List.mem_cons_self⟩

end BuildMatrix.Json
