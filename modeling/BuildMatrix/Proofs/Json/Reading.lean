import BuildMatrix.Proofs.Json.Grammar
import Mathlib.Data.List.TakeWhile

namespace BuildMatrix.Json

variable {chars rest : List Char} {value : Value}

-- What may stand behind a value without being taken for a part of it.
def Ends : List Char → Prop
  | [] => True
  | c :: _ => isSpace c = true ∨ c = ',' ∨ c = ']' ∨ c = '\x7d'

theorem ends_blank {after : List Char} (blank : Blank after) (ends : Ends rest) : Ends (after ++ rest) := by
  cases after with
  | nil => exact ends
  | cons c after => exact .inl (blank c List.mem_cons_self)

theorem ends_mark (c : Char) (mark : c ∈ [',', ']', '\x7d']) (rest : List Char) : Ends (c :: rest) := by
  refine .inr ?_
  simpa using mark

theorem ends_stops {first : Char} (ends : Ends (first :: rest)) :
    isDigit first = false ∧ first ≠ '.' ∧ first ≠ 'e' ∧ first ≠ 'E' := by
  rcases ends with space | rfl | rfl | rfl
  · simp only [isSpace, Bool.or_eq_true, beq_iff_eq] at space
    rcases space with ((rfl | rfl) | rfl) | rfl <;> decide
  all_goals decide

theorem readHex4_digits {digits : List Char} {code : Nat} (spelled : FourDigits digits code) (rest : List Char) :
    readHex4 (digits ++ rest) = some (code, rest) := by
  cases spelled with
  | digits one two three four => simp [readHex4, one, two, three, four]

theorem readUnit_code {digits : List Char} {code : Nat} (spelled : FourDigits digits code)
    (single : code < 0xd800 ∨ 0xe000 ≤ code) (rest : List Char) :
    readUnit (digits ++ rest) = some (Char.ofNat code, rest) := by
  have high : ¬(0xd800 ≤ code ∧ code < 0xdc00) := by omega
  have low : ¬(0xdc00 ≤ code ∧ code < 0xe000) := by omega
  simp [readUnit, readHex4_digits spelled, high, low]

theorem readUnit_pair {digits others : List Char} {high low : Nat} (first : FourDigits digits high)
    (second : FourDigits others low) (above : 0xd800 ≤ high) (below : high < 0xdc00) (least : 0xdc00 ≤ low)
    (most : low < 0xe000) (rest : List Char) :
    readUnit (digits ++ '\\' :: 'u' :: (others ++ rest)) =
      some (Char.ofNat (0x10000 + (high - 0xd800) * 0x400 + (low - 0xdc00)), rest) := by
  simp [readUnit, readHex4_digits first, readHex4_digits second, above, below, least, most]

theorem readEscape_short {mark c : Char} (known : (mark, c) ∈ shortEscapes) (rest : List Char) :
    readEscape (mark :: rest) = some (c, rest) := by
  simp only [shortEscapes, List.mem_cons, Prod.mk.injEq, List.not_mem_nil, or_false] at known
  rcases known with ⟨rfl, rfl⟩ | ⟨rfl, rfl⟩ | ⟨rfl, rfl⟩ | ⟨rfl, rfl⟩ | ⟨rfl, rfl⟩ | ⟨rfl, rfl⟩ | ⟨rfl, rfl⟩ | ⟨rfl, rfl⟩
  all_goals rfl

theorem readChars_escape {escaped : Char} {inside after : List Char} (read : readEscape inside = some (escaped, after))
    (fuel : Nat) : readChars (fuel + 1) ('\\' :: inside) =
      (readChars fuel after).map fun result => (escaped :: result.1, result.2) := by
  rw [readChars, if_neg (by decide), if_pos rfl, read, Option.bind_eq_bind, Option.bind_some]
  dsimp only
  cases readChars fuel after with
  | none => rfl
  | some result => rfl

theorem readChars_spelled {piece : List Char} {c : Char} (spelled : SpelledChar piece c) (fuel : Nat)
    (rest : List Char) : readChars (fuel + 1) (piece ++ rest) =
      (readChars fuel rest).map fun result => (c :: result.1, result.2) := by
  cases spelled with
  | plain printable quote slash =>
      have low : ¬c.toNat < 0x20 := Nat.not_lt.mpr printable
      rw [List.singleton_append, readChars, if_neg quote, if_neg slash, if_neg low]
      cases readChars fuel rest with
      | none => rfl
      | some result => rfl
  | short known => exact readChars_escape (readEscape_short known rest) fuel
  | @unit digits code spelled single =>
      have read : readEscape ('u' :: (digits ++ rest)) = some (Char.ofNat code, rest) := readUnit_code spelled single rest
      exact readChars_escape read fuel
  | @pair digits others high low first second above below least most =>
      have read : readEscape ('u' :: (digits ++ '\\' :: 'u' :: (others ++ rest))) = some (_, rest) :=
        readUnit_pair first second above below least most rest
      rw [List.cons_append, List.cons_append, List.append_assoc, List.cons_append, List.cons_append]
      exact readChars_escape read fuel

theorem spelled_length {piece : List Char} {c : Char} (spelled : SpelledChar piece c) : 0 < piece.length := by
  cases spelled with
  | plain _ _ _ => exact Nat.succ_pos _
  | short _ => exact Nat.succ_pos _
  | unit _ _ => exact Nat.succ_pos _
  | pair _ _ _ _ _ _ => exact Nat.succ_pos _

theorem readChars_pieces {pieces : List (List Char)} {string : List Char}
    (spelled : List.Forall₂ SpelledChar pieces string) (rest : List Char) {fuel : Nat}
    (enough : pieces.flatten.length < fuel) :
    readChars fuel (pieces.flatten ++ '\x22' :: rest) = some (string, rest) := by
  induction spelled generalizing fuel with
  | nil =>
      cases fuel with
      | zero => exact False.elim (Nat.not_lt_zero _ enough)
      | succ fuel => rfl
  | @cons piece c pieces string first _ ih =>
      have filled := spelled_length first
      rw [List.flatten_cons, List.length_append] at enough
      cases fuel with
      | zero => exact False.elim (Nat.not_lt_zero _ enough)
      | succ fuel =>
          rw [List.flatten_cons, List.append_assoc, readChars_spelled first, ih (by omega)]
          rfl

theorem readText_pieces {pieces : List (List Char)} {string : String}
    (spelled : List.Forall₂ SpelledChar pieces string.toList) (rest : List Char) :
    readText (pieces.flatten ++ '\x22' :: rest) = some (string, rest) := by
  have enough : pieces.flatten.length < (pieces.flatten ++ '\x22' :: rest).length + 1 := by
    rw [List.length_append]
    omega
  rw [readText, readChars_pieces spelled rest enough]
  simp

theorem digits_taken {digits : List Char} (decimal : ∀ c ∈ digits, isDigit c = true) (ends : Ends rest) :
    (digits ++ rest).takeWhile isDigit = digits ∧ (digits ++ rest).dropWhile isDigit = rest := by
  rw [List.takeWhile_append_of_pos decimal, List.dropWhile_append_of_pos decimal]
  cases rest with
  | nil => simp
  | cons first rest => simp [(ends_stops ends).1]

theorem readWhole_numeral {digits : List Char} (numeral : Numeral digits) (ends : Ends rest) :
    readWhole (digits ++ rest) = some (digits, rest) := by
  obtain ⟨taken, dropped⟩ := digits_taken numeral.decimal ends
  unfold readWhole
  rw [taken, dropped]
  split
  · exact False.elim (numeral.filled rfl)
  · rename_i second others
    have short := numeral.leading _ rfl
    cases short
  · rfl

theorem readFraction_ends (ends : Ends rest) : readFraction rest = some ([], rest) := by
  cases rest with
  | nil => rfl
  | cons first rest =>
      have point := (ends_stops ends).2.1
      unfold readFraction
      split
      · rename_i equal
        exact False.elim (point (List.cons.inj equal).1)
      · rfl

theorem readExponent_ends (ends : Ends rest) : readExponent rest = some (none, rest) := by
  cases rest with
  | nil => rfl
  | cons first rest =>
      have mark : ¬(first = 'e' ∨ first = 'E') := by
        have stops := ends_stops ends
        exact not_or.mpr stops.2.2
      rw [readExponent, if_neg mark]

theorem readUnsigned_numeral (negative : Bool) {digits : List Char} (numeral : Numeral digits) (ends : Ends rest) :
    readUnsigned negative (digits ++ rest) =
      some (.int (if negative then -Int.ofNat (number digits) else Int.ofNat (number digits)), rest) := by
  simp [readUnsigned, readWhole_numeral numeral ends, readFraction_ends ends, readExponent_ends ends]

theorem readValue_number {first : Char} (opens : first = '-' ∨ isDigit first = true) (fuel : Nat) (rest : List Char) :
    readValue (fuel + 1) (first :: rest) = readNumber (first :: rest) := by
  have apart : ∀ c ∈ [' ', '\n', '\r', '\t', 'n', 't', 'f', '\x22', '[', '\x7b'], first ≠ c := by
    have opening : ∀ c ∈ [' ', '\n', '\r', '\t', 'n', 't', 'f', '\x22', '[', '\x7b'],
        c ≠ '-' ∧ isDigit c = false := by simp [isDigit]
    intro c listed equal
    subst equal
    obtain ⟨sign, digit⟩ := opening first listed
    simp [sign, digit] at opens
  have solid : isSpace first = false := by
    have spaces := apart
    simp only [List.forall_mem_cons] at spaces
    simp [isSpace, spaces]
  rw [readValue, skipSpace_solid solid]
  split
  case h_7 => rfl
  all_goals
    rename_i equal
    exact False.elim (apart _ (by decide) (List.cons.inj equal).1)

theorem readNumber_digits {digits : List Char} (numeral : Numeral digits) (ends : Ends rest) :
    readNumber (digits ++ rest) = some (.int (Int.ofNat (number digits)), rest) := by
  obtain ⟨first, others, rfl, decimal⟩ := numeral_head numeral
  have unsigned : readNumber (first :: others ++ rest) = readUnsigned false (first :: others ++ rest) := by
    rw [List.cons_append]
    unfold readNumber
    split
    · rename_i equal
      rw [(List.cons.inj equal).1] at decimal
      exact False.elim (absurd decimal (by decide))
    · rfl
  rw [unsigned, readUnsigned_numeral false numeral ends]
  rfl

theorem readValue_quote (fuel : Nat) (inside : List Char) : readValue (fuel + 1) ('\x22' :: inside) =
    (readText inside).bind fun result => some (.text result.1, result.2) := rfl

theorem readValue_bracket (fuel : Nat) (inside : List Char) : readValue (fuel + 1) ('[' :: inside) =
    match skipSpace inside with
    | ']' :: rest => some (.list [], rest)
    | rest => (readItems fuel rest).bind fun result => some (.list result.1, result.2) := rfl

theorem readValue_brace (fuel : Nat) (inside : List Char) : readValue (fuel + 1) ('\x7b' :: inside) =
    match skipSpace inside with
    | '\x7d' :: rest => some (.table [], rest)
    | rest => (readRows fuel rest).bind fun result => some (.table (placeRows [] result.1), result.2) := rfl

theorem readItems_item (fuel : Nat) (chars : List Char) : readItems (fuel + 1) chars =
    (readValue fuel chars).bind fun first =>
      match skipSpace first.2 with
      | ',' :: rest => (readItems fuel rest).bind fun others => some (first.1 :: others.1, others.2)
      | ']' :: rest => some ([first.1], rest)
      | _ => none := rfl

theorem readRows_name (fuel : Nat) (inside : List Char) : readRows (fuel + 1) ('\x22' :: inside) =
    (readText inside).bind fun name =>
      match skipSpace name.2 with
      | ':' :: rest => (readValue fuel rest).bind fun first =>
          match skipSpace first.2 with
          | ',' :: rest => (readRows fuel rest).bind fun others => some ((name.1, first.1) :: others.1, others.2)
          | '\x7d' :: rest => some ([(name.1, first.1)], rest)
          | _ => none
      | _ => none := rfl

theorem readValue_blank {before : List Char} (blank : Blank before) (fuel : Nat) (chars : List Char) :
    readValue fuel (before ++ chars) = readValue fuel chars := by
  cases fuel with
  | zero => rfl
  | succ fuel => rw [readValue, readValue, skipSpace_blank blank]

theorem readValue_skip (fuel : Nat) (chars : List Char) : readValue fuel (skipSpace chars) = readValue fuel chars := by
  cases fuel with
  | zero => rfl
  | succ fuel => rw [readValue, readValue, skipSpace_again]

theorem readItems_skip (fuel : Nat) (chars : List Char) : readItems fuel (skipSpace chars) = readItems fuel chars := by
  cases fuel with
  | zero => rfl
  | succ fuel => rw [readItems, readItems, readValue_skip]

theorem readRows_blank {before : List Char} (blank : Blank before) (fuel : Nat) (chars : List Char) :
    readRows fuel (before ++ chars) = readRows fuel chars := by
  cases fuel with
  | zero => rfl
  | succ fuel => rw [readRows, readRows, skipSpace_blank blank]

theorem readRows_skip (fuel : Nat) (chars : List Char) : readRows fuel (skipSpace chars) = readRows fuel chars := by
  cases fuel with
  | zero => rfl
  | succ fuel => rw [readRows, readRows, skipSpace_again]

theorem spells_head (spelled : Spells chars value) :
    ∃ first others, chars = first :: others ∧ isSpace first = false ∧ first ≠ ']' := by
  cases spelled with
  | whole numeral =>
      obtain ⟨first, others, equal, decimal⟩ := numeral_head numeral
      refine ⟨first, others, equal, ?_, ?_⟩
      · cases space : isSpace first with
        | false => rfl
        | true =>
            have ends : Ends (first :: others) := .inl space
            have stops := ends_stops ends
            rw [decimal] at stops
            cases stops.1
      · intro bracket
        rw [bracket] at decimal
        cases decimal
  | text quotes =>
      obtain ⟨pieces, _, equal⟩ := quotes
      exact ⟨_, _, equal, by decide, by decide⟩
  | null => exact ⟨_, _, rfl, by decide, by decide⟩
  | yes => exact ⟨_, _, rfl, by decide, by decide⟩
  | no => exact ⟨_, _, rfl, by decide, by decide⟩
  | negative _ => exact ⟨_, _, rfl, by decide, by decide⟩
  | noItems _ => exact ⟨_, _, rfl, by decide, by decide⟩
  | items _ => exact ⟨_, _, rfl, by decide, by decide⟩
  | noRows _ => exact ⟨_, _, rfl, by decide, by decide⟩
  | rows _ => exact ⟨_, _, rfl, by decide, by decide⟩

theorem padded_head (padded : Padded chars value) (rest : List Char) :
    ∃ first others, skipSpace (chars ++ rest) = first :: others ∧ first ≠ ']' := by
  cases padded with
  | around blank spelled _ =>
      obtain ⟨first, others, rfl, solid, filled⟩ := spells_head spelled
      rw [List.append_assoc, skipSpace_blank blank, List.append_assoc, List.cons_append, skipSpace_solid solid]
      exact ⟨first, _, rfl, filled⟩

theorem items_head {items : List Value} (spelled : SpellsItems chars items) (rest : List Char) :
    ∃ first others, skipSpace (chars ++ rest) = first :: others ∧ first ≠ ']' := by
  cases spelled with
  | last padded => exact padded_head padded rest
  | next padded _ =>
      rw [List.append_assoc]
      exact padded_head padded _

theorem row_head {row : String × Value} (spelled : SpellsRow chars row) (rest : List Char) :
    ∃ others, skipSpace (chars ++ rest) = '\x22' :: others := by
  cases spelled with
  | field blank quotes _ _ =>
      obtain ⟨pieces, _, rfl⟩ := quotes
      rw [List.append_assoc, skipSpace_blank blank, List.append_assoc, List.cons_append, skipSpace_solid (by decide)]
      exact ⟨_, rfl⟩

theorem rows_head {rows : List (String × Value)} (spelled : SpellsRows chars rows) (rest : List Char) :
    ∃ others, skipSpace (chars ++ rest) = '\x22' :: others := by
  cases spelled with
  | last row => exact row_head row rest
  | next row _ =>
      rw [List.append_assoc]
      exact row_head row _

theorem readValue_items {first : Char} {inside others : List Char} (head : skipSpace inside = first :: others)
    (filled : first ≠ ']') (fuel : Nat) : readValue (fuel + 1) ('[' :: inside) =
      (readItems fuel inside).bind fun result => some (.list result.1, result.2) := by
  rw [readValue_bracket, ← readItems_skip fuel inside, head]
  split
  · rename_i equal
    exact False.elim (filled (List.cons.inj equal).1)
  · rfl

theorem readValue_rows {inside others : List Char} (head : skipSpace inside = '\x22' :: others) (fuel : Nat) :
    readValue (fuel + 1) ('\x7b' :: inside) =
      (readRows fuel inside).bind fun result => some (.table (placeRows [] result.1), result.2) := by
  rw [readValue_brace, ← readRows_skip fuel inside, head]
  rfl

-- With so much fuel for its length, each text is read as what it stands for.

def ReadsValues (fuel : Nat) : Prop := ∀ chars value, Spells chars value → 2 * chars.length ≤ fuel →
  ∀ rest, Ends rest → readValue fuel (chars ++ rest) = some (value, rest)

def ReadsItems (fuel : Nat) : Prop := ∀ chars items, SpellsItems chars items → 2 * chars.length + 1 ≤ fuel →
  ∀ rest, readItems fuel (chars ++ ']' :: rest) = some (items, rest)

def ReadsRows (fuel : Nat) : Prop := ∀ chars rows, SpellsRows chars rows → 2 * chars.length + 1 ≤ fuel →
  ∀ rest, readRows fuel (chars ++ '\x7d' :: rest) = some (rows, rest)

theorem values_step {fuel : Nat} (items : ReadsItems fuel) (rows : ReadsRows fuel) : ReadsValues (fuel + 1) := by
  intro chars value spelled enough rest ends
  cases spelled with
  | null => rfl
  | yes => rfl
  | no => rfl
  | whole numeral =>
      obtain ⟨first, others, rfl, decimal⟩ := numeral_head numeral
      rw [List.cons_append, readValue_number (.inr decimal), ← List.cons_append]
      exact readNumber_digits numeral ends
  | negative numeral =>
      rw [List.cons_append, readValue_number (.inl rfl)]
      exact readUnsigned_numeral true numeral ends
  | text quotes =>
      obtain ⟨pieces, each, rfl⟩ := quotes
      rw [List.cons_append, List.append_assoc, List.singleton_append, readValue_quote, readText_pieces each]
      rfl
  | noItems blank =>
      rw [List.cons_append, List.append_assoc, List.singleton_append, readValue_bracket, skipSpace_blank blank,
        skipSpace_solid (by decide)]
      rfl
  | noRows blank =>
      rw [List.cons_append, List.append_assoc, List.singleton_append, readValue_brace, skipSpace_blank blank,
        skipSpace_solid (by decide)]
      rfl
  | @items inside listed spelled =>
      simp only [List.length_cons, List.length_append, List.length_nil] at enough
      obtain ⟨first, others, head, filled⟩ := items_head spelled (']' :: rest)
      rw [List.cons_append, List.append_assoc, List.singleton_append, readValue_items head filled,
        items inside listed spelled (by omega)]
      rfl
  | @rows inside listed spelled =>
      simp only [List.length_cons, List.length_append, List.length_nil] at enough
      obtain ⟨others, head⟩ := rows_head spelled ('\x7d' :: rest)
      rw [List.cons_append, List.append_assoc, List.singleton_append, readValue_rows head,
        rows inside listed spelled (by omega)]
      rfl

theorem padded_read {fuel : Nat} (values : ReadsValues fuel) (padded : Padded chars value)
    (enough : 2 * chars.length ≤ fuel) {rest : List Char} (ends : Ends rest) :
    ∃ after, Blank after ∧ readValue fuel (chars ++ rest) = some (value, after ++ rest) := by
  cases padded with
  | @around before core after _ blank spelled behind =>
      simp only [List.length_append] at enough
      refine ⟨after, behind, ?_⟩
      rw [List.append_assoc, List.append_assoc, readValue_blank blank]
      exact values core value spelled (by omega) _ (ends_blank behind ends)

theorem items_step {fuel : Nat} (values : ReadsValues fuel) (items : ReadsItems fuel) : ReadsItems (fuel + 1) := by
  intro chars listed spelled enough rest
  cases spelled with
  | last padded =>
      obtain ⟨after, blank, read⟩ := padded_read values padded (by omega) (ends_mark ']' (by decide) rest)
      rw [readItems_item, read, Option.bind_some, skipSpace_blank blank, skipSpace_solid (by decide)]
      rfl
  | @next core others item remaining padded spelled =>
      simp only [List.length_cons, List.length_append] at enough
      obtain ⟨after, blank, read⟩ := padded_read values padded (by omega) (ends_mark ',' (by decide) _)
      rw [List.append_assoc, List.cons_append, readItems_item, read, Option.bind_some, skipSpace_blank blank,
        skipSpace_solid (by decide)]
      change (readItems fuel (others ++ ']' :: rest)).bind _ = _
      rw [items others remaining spelled (by omega)]
      rfl

theorem row_read {fuel : Nat} (values : ReadsValues fuel) {row : String × Value} (spelled : SpellsRow chars row)
    (enough : 2 * chars.length ≤ fuel) {rest : List Char} (ends : Ends rest) :
    ∃ after, Blank after ∧ readRows (fuel + 1) (chars ++ rest) =
      match skipSpace (after ++ rest) with
      | ',' :: rest => (readRows fuel rest).bind fun others => some (row :: others.1, others.2)
      | '\x7d' :: rest => some ([row], rest)
      | _ => none := by
  cases spelled with
  | @field before name between core key value blank quotes gap padded =>
      obtain ⟨pieces, each, rfl⟩ := quotes
      simp only [List.length_append, List.length_cons] at enough
      obtain ⟨after, behind, read⟩ := padded_read values padded (by omega) ends
      refine ⟨after, behind, ?_⟩
      rw [List.append_assoc, readRows_blank blank, List.append_assoc, List.cons_append, List.append_assoc,
        List.singleton_append, readRows_name, readText_pieces each, Option.bind_some, List.append_assoc,
        skipSpace_blank gap, List.cons_append, skipSpace_solid (by decide)]
      change (readValue fuel (core ++ rest)).bind _ = _
      rw [read, Option.bind_some]

theorem rows_step {fuel : Nat} (values : ReadsValues fuel) (rows : ReadsRows fuel) : ReadsRows (fuel + 1) := by
  intro chars listed spelled enough rest
  cases spelled with
  | last row =>
      obtain ⟨after, blank, read⟩ := row_read values row (by omega) (ends_mark '\x7d' (by decide) rest)
      rw [read, skipSpace_blank blank, skipSpace_solid (by decide)]
      rfl
  | @next core others row remaining first spelled =>
      simp only [List.length_cons, List.length_append] at enough
      obtain ⟨after, blank, read⟩ := row_read values first (by omega) (ends_mark ',' (by decide) _)
      rw [List.append_assoc, List.cons_append, read, skipSpace_blank blank, skipSpace_solid (by decide)]
      change (readRows fuel (others ++ '\x7d' :: rest)).bind _ = _
      rw [rows others remaining spelled (by omega)]
      rfl

-- The reader's fuel is what the induction is on; one round of it takes one mark
-- off a list or a table.
theorem reads (fuel : Nat) : ReadsValues fuel ∧ ReadsItems fuel ∧ ReadsRows fuel := by
  induction fuel with
  | zero =>
      refine ⟨?_, ?_, ?_⟩
      · intro chars value spelled enough
        obtain ⟨first, others, rfl, _⟩ := spells_head spelled
        rw [List.length_cons] at enough
        omega
      · intro chars items _ enough
        exact False.elim (Nat.not_succ_le_zero _ enough)
      · intro chars rows _ enough
        exact False.elim (Nat.not_succ_le_zero _ enough)
  | succ fuel ih =>
      obtain ⟨values, items, rows⟩ := ih
      exact ⟨values_step items rows, items_step values items, rows_step values rows⟩

theorem read?_document {text : String} (document : Document text value) : read? text = some value := by
  have enough : 2 * text.toList.length ≤ 2 * text.toList.length + 2 := by omega
  have finished : Ends [] := trivial
  obtain ⟨after, blank, read⟩ := padded_read (reads _).1 document enough finished
  rw [List.append_nil, List.append_nil] at read
  have closed : skipSpace after = [] := by
    have dropped := skipSpace_blank blank []
    rwa [List.append_nil] at dropped
  simp [read?, read, closed]

theorem document_unique {text : String} {other : Value} (document : Document text value)
    (again : Document text other) : value = other := by
  have read := read?_document document
  rw [read?_document again] at read
  exact (Option.some.inj read).symm

end BuildMatrix.Json
