import BuildMatrix.Proofs.Json.Writing
import BuildMatrix.Proofs.Sorting

namespace BuildMatrix

namespace Value

inductive Throughout (fits : List String → Prop) : Value → Prop where
  | null : Throughout fits .null
  | bool (flag : Bool) : Throughout fits (.bool flag)
  | int (number : Int) : Throughout fits (.int number)
  | real (number : Decimal) : Throughout fits (.real number)
  | text (string : String) : Throughout fits (.text string)
  | list {items : List Value} : (∀ item ∈ items, Throughout fits item) → Throughout fits (.list items)
  | table {rows : List (String × Value)} : fits (rows.map Prod.fst) → (∀ row ∈ rows, Throughout fits row.2) →
      Throughout fits (.table rows)

def Keyed : Value → Prop := Throughout List.Nodup

def Increasing : Value → Prop := Throughout (List.Pairwise (· < ·))

variable {value one other : Value}

theorem plain_keyed (plain : value.Plain) : value.Keyed := by
  induction plain with
  | null => exact .null
  | bool flag => exact .bool flag
  | int number => exact .int number
  | text string => exact .text string
  | list _ ih => exact .list ih
  | table distinct _ ih => exact .table distinct ih

theorem sortKeys_table (rows : List (String × Value)) : (Value.table rows).sortKeys =
    .table ((rows.map fun row => (row.1, row.2.sortKeys)).mergeSort fun a b => decide (a.1 ≤ b.1)) := by
  rw [sortKeys, sortKeysRows_map]

theorem sortKeys_increasing (keyed : value.Keyed) : value.sortKeys.Increasing := by
  unfold Keyed at keyed
  induction keyed with
  | null => exact .null
  | bool flag => exact .bool flag
  | int number => exact .int number
  | real number => exact .real number
  | text string => exact .text string
  | list _ ih =>
      rw [sortKeys, sortKeysItems_map]
      apply Throughout.list
      intro item present
      obtain ⟨held, inside, rfl⟩ := List.mem_map.mp present
      exact ih held inside
  | @table rows distinct _ ih =>
      have same := List.mergeSort_perm (rows.map fun row => (row.1, row.2.sortKeys)) fun a b => decide (a.1 ≤ b.1)
      rw [sortKeys_table]
      apply Throughout.table
      · have ordered := List.pairwise_map.mpr (sorted_by Prod.fst (rows.map fun row => (row.1, row.2.sortKeys)))
        have apart := (sorted_keys same).nodup_iff.mpr distinct
        exact ordered.imp₂ (fun _ _ before other => lt_of_le_of_ne before other) apart
      · intro row present
        obtain ⟨held, inside, found⟩ := sorted_row same present
        rw [found]
        exact ih (row.1, held) inside

theorem rows_perm {rows others : List (String × Value)} (keys : (rows.map Prod.fst).Perm (others.map Prod.fst))
    (values : ∀ key one other, (key, one) ∈ rows → (key, other) ∈ others → one = other) : rows.Perm others := by
  induction rows generalizing others with
  | nil =>
      have none := List.map_eq_nil_iff.mp keys.nil_eq.symm
      rw [none]
  | cons row rest ih =>
      obtain ⟨kept, there, named⟩ := List.mem_map.mp (keys.mem_iff.mp List.mem_cons_self)
      have same : kept = row := by
        refine Prod.ext named ?_
        have held : (kept.1, row.2) ∈ row :: rest := named ▸ List.mem_cons_self
        exact (values kept.1 row.2 kept.2 held there).symm
      subst same
      obtain ⟨before, after, rfl⟩ := List.append_of_mem there
      rw [List.map_append, List.map_cons, List.map_cons] at keys
      have fewer := (keys.trans List.perm_middle).cons_inv
      rw [← List.map_append] at fewer
      have left : ∀ held ∈ before ++ after, held ∈ before ++ kept :: after := fun held present =>
        (List.Sublist.append_left (List.sublist_cons_self _ _) _).subset present
      refine ((ih fewer ?_).cons kept).trans List.perm_middle.symm
      intro key one other first second
      exact values key one other (List.mem_cons_of_mem _ first) (left _ second)

theorem rows_sorted_eq {rows others : List (String × Value)} (keys : (rows.map Prod.fst).Perm (others.map Prod.fst))
    (values : ∀ key one other, (key, one) ∈ rows → (key, other) ∈ others → one = other) :
    (rows.mergeSort fun a b => decide (a.1 ≤ b.1)) = others.mergeSort fun a b => decide (a.1 ≤ b.1) := by
  have one := List.mergeSort_perm rows fun a b => decide (a.1 ≤ b.1)
  have other := List.mergeSort_perm others fun a b => decide (a.1 ≤ b.1)
  -- Of two rows that could change places both are the same.
  refine (one.trans ((rows_perm keys values).trans other.symm)).eq_of_pairwise ?_ (sorted_by _ _) (sorted_by _ _)
  intro first second here there before after
  have named : first.1 = second.1 := le_antisymm before after
  refine Prod.ext named (values first.1 _ _ (one.mem_iff.mp here) ?_)
  rw [named]
  exact other.mem_iff.mp there

theorem sortKeys_eq (same : one.Same other) : one.sortKeys = other.sortKeys := by
  induction same with
  | null => rfl
  | bool flag => rfl
  | int number => rfl
  | real number => rfl
  | text string => rfl
  | @list items others size _ ih =>
      rw [sortKeys, sortKeys, sortKeysItems_map, sortKeysItems_map]
      congr 1
      apply List.ext_getElem (by simpa using size)
      intro place first second
      rw [List.getElem_map, List.getElem_map]
      exact ih place _ _ (List.getElem?_eq_getElem _) (List.getElem?_eq_getElem _)
  | @table rows others keys _ ih =>
      rw [sortKeys_table, sortKeys_table]
      congr 1
      have values : ∀ key one other, (key, one) ∈ rows.map (fun row => (row.1, row.2.sortKeys)) →
          (key, other) ∈ others.map (fun row => (row.1, row.2.sortKeys)) → one = other := by
        simp only [List.mem_map, Prod.mk.injEq]
        rintro key _ _ ⟨held, inside, rfl, rfl⟩ ⟨kept, within, named, rfl⟩
        exact ih held.1 held.2 kept.2 inside (named ▸ within)
      exact rows_sorted_eq (by simpa [List.map_map, Function.comp_def] using keys) values

end Value

namespace Json

open Value (Increasing Keyed)

variable {layout : Layout} {depth : Nat}

def isMark (c : Char) : Bool := isSpace c || ['[', ']', '\x7b', '\x7d', ',', ':', '\x22'].contains c

def Word (chars : List Char) : Prop := chars ≠ [] ∧ ∀ c ∈ chars, isMark c = false

instance (chars : List Char) : Decidable (Word chars) := @instDecidableAnd _ _ inferInstance (List.decidableBAll _ _)

-- Texts in which the keys of every table are written in strictly increasing order,
-- at any depth. What the text stands for is left open here.
mutual
inductive InOrder : List Char → Prop where
  | word {chars : List Char} : Word chars → InOrder chars
  | text {chars : List Char} {string : String} : Quotes chars string → InOrder chars
  | noItems {space : List Char} : Blank space → InOrder ('[' :: (space ++ [']']))
  | items {chars : List Char} : ItemsInOrder chars → InOrder ('[' :: (chars ++ [']']))
  | noRows {space : List Char} : Blank space → InOrder ('\x7b' :: (space ++ ['\x7d']))
  | rows {chars : List Char} {keys : List String} : RowsInOrder chars keys → keys.Pairwise (· < ·) →
      InOrder ('\x7b' :: (chars ++ ['\x7d']))
inductive PaddedInOrder : List Char → Prop where
  | around {before chars after : List Char} : Blank before → InOrder chars → Blank after →
      PaddedInOrder (before ++ (chars ++ after))
inductive ItemsInOrder : List Char → Prop where
  | last {chars : List Char} : PaddedInOrder chars → ItemsInOrder chars
  | next {chars others : List Char} : PaddedInOrder chars → ItemsInOrder others → ItemsInOrder (chars ++ ',' :: others)
inductive RowsInOrder : List Char → List String → Prop where
  | last {before name between chars : List Char} {key : String} : Blank before → Quotes name key → Blank between →
      PaddedInOrder chars → RowsInOrder (before ++ (name ++ (between ++ ':' :: chars))) [key]
  | next {before name between chars others : List Char} {key : String} {keys : List String} : Blank before →
      Quotes name key → Blank between → PaddedInOrder chars → RowsInOrder others keys →
      RowsInOrder (before ++ (name ++ (between ++ ':' :: (chars ++ ',' :: others)))) (key :: keys)
end

def isNumeric (c : Char) : Bool := isDigit c || ['-', '+', '.', 'e'].contains c

theorem numeric_plain {c : Char} (numeric : isNumeric c = true) : isMark c = false := by
  cases mark : isMark c with
  | false => rfl
  | true =>
      simp only [isMark, isSpace, Bool.or_eq_true, beq_iff_eq, List.contains_iff_mem, List.mem_cons,
        List.not_mem_nil, or_false] at mark
      rcases mark with (((rfl | rfl) | rfl) | rfl) | rfl | rfl | rfl | rfl | rfl | rfl | rfl <;> cases numeric

theorem digits_numeric (n : Nat) : ∀ c ∈ Nat.toDigits 10 n, isNumeric c = true := by
  intro c present
  rw [isNumeric, (digits_numeral n).decimal c present, Bool.true_or]

theorem natural_numeric (n : Nat) : ∀ c ∈ (toString n).toList, isNumeric c = true := by
  rw [Nat.toString_eq_repr, Nat.toList_repr]
  exact digits_numeric n

theorem zeros_numeric (count : Nat) : ∀ c ∈ List.replicate count '0', isNumeric c = true := by
  intro c present
  rw [List.eq_of_mem_replicate present]
  rfl

theorem positional_numeric (decimal : Decimal) : ∀ c ∈ decimal.positional, isNumeric c = true := by
  have padded : ∀ c ∈ List.replicate (decimal.places + 1 - decimal.written.length) '0' ++ decimal.written,
      isNumeric c = true := List.forall_mem_append.mpr ⟨zeros_numeric _, natural_numeric _⟩
  unfold Decimal.positional
  refine List.forall_mem_append.mpr ⟨?_, List.forall_mem_cons.mpr ⟨rfl, ?_⟩⟩
  · exact fun c present => padded c (List.mem_of_mem_take present)
  · exact fun c present => padded c (List.mem_of_mem_drop present)

theorem exponent_numeric (power : Int) : ∀ c ∈ Decimal.exponent power, isNumeric c = true := by
  unfold Decimal.exponent
  refine List.forall_mem_cons.mpr ⟨rfl, List.forall_mem_cons.mpr ⟨?_, ?_⟩⟩
  · split
    · rfl
    · rfl
  · exact List.forall_mem_append.mpr ⟨zeros_numeric _, natural_numeric _⟩

theorem scientific_numeric (decimal : Decimal) : ∀ c ∈ decimal.scientific, isNumeric c = true := by
  have significant : ∀ c ∈ (decimal.written.reverse.dropWhile (· == '0')).reverse, isNumeric c = true := by
    intro c present
    have within := (List.dropWhile_sublist _).subset (List.mem_reverse.mp present)
    exact natural_numeric _ c (List.mem_reverse.mp within)
  unfold Decimal.scientific
  dsimp only
  split
  · rename_i first second rest opened
    rw [opened] at significant
    obtain ⟨head, tail⟩ := List.forall_mem_cons.mp significant
    exact List.forall_mem_append.mpr
      ⟨List.forall_mem_cons.mpr ⟨head, List.forall_mem_cons.mpr ⟨rfl, tail⟩⟩, exponent_numeric _⟩
  · exact List.forall_mem_append.mpr ⟨significant, exponent_numeric _⟩

theorem positional_filled (decimal : Decimal) : decimal.positional ≠ [] := by
  simp [Decimal.positional]

theorem scientific_filled (decimal : Decimal) : decimal.scientific ≠ [] := by
  unfold Decimal.scientific
  dsimp only
  split
  · exact List.cons_ne_nil _ _
  · simp [Decimal.exponent]

def Numeric (chars : List Char) : Prop := chars ≠ [] ∧ ∀ c ∈ chars, isNumeric c = true

theorem signed_numeric {sign digits : List Char} (signed : ∀ c ∈ sign, isNumeric c = true) (filled : digits ≠ [])
    (numeric : ∀ c ∈ digits, isNumeric c = true) : Numeric (sign ++ digits) :=
  ⟨List.append_ne_nil_of_right_ne_nil sign filled, List.forall_mem_append.mpr ⟨signed, numeric⟩⟩

theorem integer_numeric (integer : Int) : Numeric (toString integer).toList := by
  cases integer with
  | ofNat n =>
      rw [natural_written]
      exact signed_numeric (List.forall_mem_nil _) Nat.toDigits_ne_nil (digits_numeric n)
  | negSucc n =>
      rw [negative_written]
      exact signed_numeric (List.forall_mem_singleton.mpr rfl) Nat.toDigits_ne_nil (digits_numeric (n + 1))

theorem decimal_numeric (decimal : Decimal) : Numeric decimal.chars := by
  have sign : ∀ c ∈ if decimal.negative then ['-'] else [], isNumeric c = true := by
    split
    · exact List.forall_mem_singleton.mpr rfl
    · exact List.forall_mem_nil _
  by_cases near : decimal.digits = 0 ∨ (-4 ≤ decimal.power ∧ decimal.power < 16)
  · rw [Decimal.chars, if_pos near]
    exact signed_numeric sign (positional_filled decimal) (positional_numeric decimal)
  · rw [Decimal.chars, if_neg near]
    exact signed_numeric sign (scientific_filled decimal) (scientific_numeric decimal)

theorem numeric_word {chars : List Char} (numeric : Numeric chars) : Word chars :=
  ⟨numeric.1, fun c present => numeric_plain (numeric.2 c present)⟩

theorem items_inOrder {before core closing : List Char} (blank : Blank before) (first : InOrder core)
    (free : Blank closing) {rest : List Value} (each : ∀ next ∈ rest, InOrder (write layout depth next)) :
    ItemsInOrder (before ++ (core ++ (writeItems layout depth rest ++ closing))) := by
  induction rest generalizing before core with
  | nil => exact .last (.around blank first free)
  | cons next others ih =>
      obtain ⟨head, tail⟩ := List.forall_mem_cons.mp each
      obtain ⟨gap, space, separated⟩ := separator_blank layout depth
      have ordered := ItemsInOrder.next (.around blank first blank_nil) (ih space head tail)
      rw [writeItems, separated]
      simpa using ordered

theorem rows_inOrder {before core closing : List Char} (key : String) (blank : Blank before) (first : InOrder core)
    (free : Blank closing) {rest : List (String × Value)}
    (each : ∀ row ∈ rest, InOrder (write layout depth row.2)) :
    RowsInOrder (before ++ (writeText key ++ ':' :: ' ' :: (core ++ (writeRows layout depth rest ++ closing))))
      (key :: rest.map Prod.fst) := by
  have space : Blank [' '] := by
    intro c present
    rw [List.mem_singleton.mp present]
    rfl
  induction rest generalizing before core key with
  | nil => exact .last blank (text_quotes key) blank_nil (.around space first free)
  | cons row others ih =>
      obtain ⟨head, tail⟩ := List.forall_mem_cons.mp each
      obtain ⟨gap, free, separated⟩ := separator_blank layout depth
      have ordered := RowsInOrder.next blank (text_quotes key) blank_nil (.around space first blank_nil)
        (ih row.1 free head tail)
      rw [writeRows, separated]
      simpa using ordered

theorem write_inOrder {value : Value} (increasing : value.Increasing) (layout : Layout) (depth : Nat) :
    InOrder (write layout depth value) := by
  unfold Increasing at increasing
  induction increasing generalizing depth with
  | null =>
      have word : Word ['n', 'u', 'l', 'l'] := by decide
      exact .word word
  | bool flag =>
      have words : Word ['t', 'r', 'u', 'e'] ∧ Word ['f', 'a', 'l', 's', 'e'] := by decide
      cases flag with
      | true => exact .word words.1
      | false => exact .word words.2
  | int number => exact .word (numeric_word (integer_numeric number))
  | real number => exact .word (numeric_word (decimal_numeric number))
  | text string => exact .text (text_quotes string)
  | @list items _ ih =>
      cases items with
      | nil => exact .noItems blank_nil
      | cons item rest =>
          obtain ⟨head, tail⟩ := List.forall_mem_cons.mp ih
          have ordered := InOrder.items (items_inOrder (break_blank layout (depth + 1)) (head (depth + 1))
            (break_blank layout depth) fun next present => tail next present (depth + 1))
          rw [write]
          simpa using ordered
  | @table rows keys _ ih =>
      cases rows with
      | nil => exact .noRows blank_nil
      | cons row rest =>
          obtain ⟨head, tail⟩ := List.forall_mem_cons.mp ih
          have ordered := InOrder.rows (rows_inOrder row.1 (break_blank layout (depth + 1)) (head (depth + 1))
            (break_blank layout depth) fun next present => tail next present (depth + 1)) keys
          rw [write]
          simpa using ordered

-- Documents are the same text if their values differ in the order of keys alone, and
-- in the text itself keys stand in order.

theorem document_same {one other : Value} (same : one.Same other) (layout : Layout) :
    document layout one = document layout other := by
  rw [document, document, Value.sortKeys_eq same]

theorem document_inOrder {value : Value} (keyed : value.Keyed) (layout : Layout) :
    ∃ text : String, document layout value = text ++ "\n" ∧ InOrder text.toList := by
  refine ⟨String.ofList (write layout 0 value.sortKeys), by rw [document, String.ofList_append], ?_⟩
  rw [String.toList_ofList]
  exact write_inOrder (Value.sortKeys_increasing keyed) layout 0

end Json
end BuildMatrix
