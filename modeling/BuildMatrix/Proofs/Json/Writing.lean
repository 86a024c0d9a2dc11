import BuildMatrix.Proofs.Json.Grammar
import BuildMatrix.Proofs.Json.Keys
import BuildMatrix.Proofs.Mapping

namespace BuildMatrix.Json

open Value (Plain)

variable {layout : Layout} {depth : Nat}

theorem isDigit_eq (c : Char) : isDigit c = c.isDigit := rfl

theorem number_eq (digits : List Char) : number digits = Nat.ofDigitChars 10 digits 0 := by
  simp [number, Nat.ofDigitChars, Nat.mul_comm]

theorem digits_head {n : Nat} (positive : 0 < n) (rest : List Char) : Nat.toDigits 10 n ≠ '0' :: rest := by
  induction n using Nat.strongRecOn generalizing rest with
  | ind n ih =>
      by_cases small : n < 10
      · rw [Nat.toDigits_of_lt_base small]
        intro equal
        have zero : ∀ digit < 10, 0 < digit → digit.digitChar ≠ '0' := by decide
        exact zero n small positive (List.cons.inj equal).1
      · have before : 0 < n / 10 := by omega
        rw [Nat.toDigits_of_base_le (by decide) (Nat.le_of_not_lt small)]
        cases opening : Nat.toDigits 10 (n / 10) with
        | nil => exact False.elim (Nat.toDigits_ne_nil opening)
        | cons first others =>
            intro equal
            rw [List.cons_append, List.cons.injEq] at equal
            rw [equal.1] at opening
            exact ih (n / 10) (by omega) before others opening

theorem digits_numeral (n : Nat) : Numeral (Nat.toDigits 10 n) where
  filled := Nat.toDigits_ne_nil
  decimal c present := by
    rw [isDigit_eq]
    exact Nat.isDigit_of_mem_toDigits (by decide) (by decide) present
  leading rest equal := by
    cases Nat.eq_zero_or_pos n with
    | inl zero =>
        subst n
        cases equal
        rfl
    | inr positive => exact False.elim (digits_head positive rest equal)

theorem digits_number (n : Nat) : number (Nat.toDigits 10 n) = n := by
  rw [number_eq, Nat.ofDigitChars_toDigits (by decide) (by decide)]

theorem natural_written (n : Nat) : (toString (Int.ofNat n)).toList = Nat.toDigits 10 n := Nat.toList_repr

theorem negative_written (n : Nat) : (toString (Int.negSucc n)).toList = '-' :: Nat.toDigits 10 (n + 1) := by
  change ("-" ++ Nat.repr (n + 1)).toList = _
  rw [String.toList_append, Nat.toList_repr]
  rfl

theorem integer_spelled (integer : Int) : Spells (toString integer).toList (.int integer) := by
  cases integer with
  | ofNat n =>
      have spelled := Spells.whole (digits_numeral n)
      rw [digits_number] at spelled
      rw [natural_written]
      exact spelled
  | negSucc n =>
      have spelled := Spells.negative (digits_numeral (n + 1))
      rw [digits_number] at spelled
      rw [negative_written]
      exact spelled

theorem hexValue_digit : ∀ digit < 16, hexValue? (Text.hexDigit digit) = some digit := by decide

theorem hex_spelled {n : Nat} (bound : n < 0x10000) : FourDigits (Text.hex 4 n) n := by
  have digits := FourDigits.digits (hexValue_digit (n / 16 / 16 / 16 % 16) (by omega))
    (hexValue_digit (n / 16 / 16 % 16) (by omega)) (hexValue_digit (n / 16 % 16) (by omega))
    (hexValue_digit (n % 16) (by omega))
  have whole : ((n / 16 / 16 / 16 % 16 * 16 + n / 16 / 16 % 16) * 16 + n / 16 % 16) * 16 + n % 16 = n := by omega
  rw [whole] at digits
  exact digits

theorem short_spelled {mark c escaped : Char} (equal : c = escaped) (listed : (mark, escaped) ∈ shortEscapes) :
    SpelledChar ['\\', mark] c := by
  rw [equal]
  exact .short listed

theorem escape_spelled (c : Char) : SpelledChar (escape c) c := by
  unfold escape
  split_ifs with quote slash line carriage tab back feed control
  · exact short_spelled quote (by decide)
  · exact short_spelled slash (by decide)
  · exact short_spelled line (by decide)
  · exact short_spelled carriage (by decide)
  · exact short_spelled tab (by decide)
  · exact short_spelled back (by decide)
  · exact short_spelled feed (by decide)
  · have spelled := SpelledChar.unit (hex_spelled (n := c.toNat) (by omega)) (.inl (by omega))
    rwa [Char.ofNat_toNat] at spelled
  · exact .plain (Nat.le_of_not_lt control) quote slash

theorem text_quotes (string : String) : Quotes (writeText string) string := by
  refine ⟨string.toList.map escape, ?_, ?_⟩
  · rw [List.forall₂_map_left_iff, List.forall₂_same]
    exact fun c _ => escape_spelled c
  · rw [writeText, List.flatMap_def]

-- The layout puts white space where the grammar leaves it free.

theorem break_blank (layout : Layout) (depth : Nat) : Blank (layout.breakAt depth) := by
  cases layout with
  | line => exact blank_nil
  | indented width =>
      intro c present
      rcases List.mem_cons.mp present with equal | space
      · rw [equal]
        rfl
      · rw [List.eq_of_mem_replicate space]
        rfl

theorem separator_blank (layout : Layout) (depth : Nat) :
    ∃ gap, Blank gap ∧ layout.separator depth = ',' :: gap := by
  cases layout with
  | line =>
      refine ⟨[' '], ?_, rfl⟩
      intro c present
      rw [List.mem_singleton.mp present]
      rfl
  | indented width => exact ⟨_, break_blank (.indented width) depth, rfl⟩

theorem items_spelled {before core closing : List Char} {item : Value} (blank : Blank before)
    (first : Spells core item) (free : Blank closing) {rest : List Value}
    (each : ∀ next ∈ rest, Spells (write layout depth next) next) :
    SpellsItems (before ++ (core ++ (writeItems layout depth rest ++ closing))) (item :: rest) := by
  induction rest generalizing before core item with
  | nil => exact .last (.around blank first free)
  | cons next others ih =>
      obtain ⟨head, tail⟩ := List.forall_mem_cons.mp each
      obtain ⟨gap, space, separated⟩ := separator_blank layout depth
      have spelled := SpellsItems.next (.around blank first blank_nil) (ih space head tail)
      rw [writeItems, separated]
      simpa using spelled

theorem row_spelled {before core closing : List Char} {value : Value} (key : String) (blank : Blank before)
    (spelled : Spells core value) (free : Blank closing) :
    SpellsRow (before ++ (writeText key ++ ':' :: ' ' :: (core ++ closing))) (key, value) := by
  have space : Blank [' '] := by
    intro c present
    rw [List.mem_singleton.mp present]
    rfl
  exact .field blank (text_quotes key) blank_nil (.around space spelled free)

theorem rows_spelled {before core closing : List Char} (key : String) {value : Value} (blank : Blank before)
    (first : Spells core value) (free : Blank closing) {rest : List (String × Value)}
    (each : ∀ row ∈ rest, Spells (write layout depth row.2) row.2) :
    SpellsRows (before ++ (writeText key ++ ':' :: ' ' :: (core ++ (writeRows layout depth rest ++ closing))))
      ((key, value) :: rest) := by
  induction rest generalizing before core key value with
  | nil => exact .last (row_spelled key blank first free)
  | cons row others ih =>
      obtain ⟨head, tail⟩ := List.forall_mem_cons.mp each
      obtain ⟨gap, space, separated⟩ := separator_blank layout depth
      have spelled := SpellsRows.next (row_spelled key blank first blank_nil) (ih row.1 space head tail)
      rw [writeRows, separated]
      simpa using spelled

theorem write_spelled {value : Value} (plain : value.Plain) (layout : Layout) (depth : Nat) :
    Spells (write layout depth value) value := by
  induction plain generalizing depth with
  | null => exact .null
  | bool flag =>
      cases flag with
      | true => exact .yes
      | false => exact .no
  | int number => exact integer_spelled number
  | text string => exact .text (text_quotes string)
  | @list items _ ih =>
      cases items with
      | nil => exact .noItems blank_nil
      | cons item rest =>
          obtain ⟨head, tail⟩ := List.forall_mem_cons.mp ih
          have spelled := Spells.items (items_spelled (break_blank layout (depth + 1)) (head (depth + 1))
            (break_blank layout depth) fun next present => tail next present (depth + 1))
          rw [write]
          simpa using spelled
  | @table rows distinct _ ih =>
      cases rows with
      | nil => exact .noRows blank_nil
      | cons row rest =>
          obtain ⟨head, tail⟩ := List.forall_mem_cons.mp ih
          have spelled := Spells.rows (rows_spelled row.1 (break_blank layout (depth + 1)) (head (depth + 1))
            (break_blank layout depth) fun next present => tail next present (depth + 1))
          rw [placeRows_fresh [] _ distinct, List.nil_append] at spelled
          rw [write]
          simpa using spelled

theorem document_spelled {value : Value} (plain : value.Plain) (layout : Layout) :
    ∃ text, document layout value = text ++ "\n" ∧ Document text value.sortKeys := by
  have spelled := write_spelled (Value.sortKeys_plain plain) layout 0
  refine ⟨String.ofList (write layout 0 value.sortKeys), ?_, ?_⟩
  · rw [document, String.ofList_append]
  · have padded := Padded.around blank_nil spelled blank_nil
    rw [List.nil_append, List.append_nil] at padded
    rwa [Document, String.toList_ofList]

end BuildMatrix.Json
