import BuildMatrix.Json.Writer
import Mathlib.Data.List.Nodup

namespace BuildMatrix.Value

-- Values without fractions in which no table has a key twice, at any depth.
inductive Plain : Value → Prop where
  | null : Plain .null
  | bool (flag : Bool) : Plain (.bool flag)
  | int (number : Int) : Plain (.int number)
  | text (string : String) : Plain (.text string)
  | list {items : List Value} : (∀ item ∈ items, Plain item) → Plain (.list items)
  | table {rows : List (String × Value)} : (rows.map Prod.fst).Nodup → (∀ row ∈ rows, Plain row.2) →
      Plain (.table rows)

-- Equal but for the order in which the keys of tables were set.
inductive Same : Value → Value → Prop where
  | null : Same .null .null
  | bool (flag : Bool) : Same (.bool flag) (.bool flag)
  | int (number : Int) : Same (.int number) (.int number)
  | real (number : Decimal) : Same (.real number) (.real number)
  | text (string : String) : Same (.text string) (.text string)
  | list {items others : List Value} : items.length = others.length →
      (∀ (place : Nat) (one other : Value), items[place]? = some one → others[place]? = some other → Same one other) →
      Same (.list items) (.list others)
  | table {rows others : List (String × Value)} : (rows.map Prod.fst).Perm (others.map Prod.fst) →
      (∀ key one other, (key, one) ∈ rows → (key, other) ∈ others → Same one other) →
      Same (.table rows) (.table others)

variable {value : Value} {rows : List (String × Value)}

theorem sortKeysItems_map (items : List Value) : sortKeysItems items = items.map sortKeys := by
  induction items with
  | nil => rfl
  | cons item rest ih => rw [sortKeysItems, ih, List.map_cons]

theorem sortKeysRows_map (rows : List (String × Value)) :
    sortKeysRows rows = rows.map fun row => (row.1, row.2.sortKeys) := by
  induction rows with
  | nil => rfl
  | cons row rest ih => rw [sortKeysRows, ih, List.map_cons]

theorem sortKeys_rows (rows : List (String × Value)) :
    ∃ sorted, (Value.table rows).sortKeys = .table sorted ∧
      sorted.Perm (rows.map fun row => (row.1, row.2.sortKeys)) := by
  refine ⟨_, ?_, List.mergeSort_perm _ fun a b => decide (a.1 ≤ b.1)⟩
  rw [sortKeys, sortKeysRows_map]

theorem sorted_keys {sorted : List (String × Value)}
    (same : sorted.Perm (rows.map fun row => (row.1, row.2.sortKeys))) :
    (sorted.map Prod.fst).Perm (rows.map Prod.fst) := by
  have keys := same.map Prod.fst
  rwa [List.map_map] at keys

theorem sorted_row {sorted : List (String × Value)}
    (same : sorted.Perm (rows.map fun row => (row.1, row.2.sortKeys))) {key : String} {found : Value}
    (present : (key, found) ∈ sorted) : ∃ held, (key, held) ∈ rows ∧ found = held.sortKeys := by
  obtain ⟨row, held, equal⟩ := List.mem_map.mp (same.mem_iff.mp present)
  cases equal
  exact ⟨row.2, held, rfl⟩

theorem sortKeys_plain (plain : value.Plain) : value.sortKeys.Plain := by
  induction plain with
  | null => exact .null
  | bool flag => exact .bool flag
  | int number => exact .int number
  | text string => exact .text string
  | list _ ih =>
      rw [sortKeys, sortKeysItems_map]
      apply Plain.list
      intro item present
      obtain ⟨held, inside, rfl⟩ := List.mem_map.mp present
      exact ih held inside
  | @table rows distinct _ ih =>
      obtain ⟨sorted, equal, same⟩ := sortKeys_rows rows
      rw [equal]
      apply Plain.table
      · exact (sorted_keys same).nodup_iff.mpr distinct
      · intro row present
        obtain ⟨held, inside, found⟩ := sorted_row same present
        rw [found]
        exact ih (row.1, held) inside

theorem sortKeys_same (plain : value.Plain) : value.sortKeys.Same value := by
  induction plain with
  | null => exact .null
  | bool flag => exact .bool flag
  | int number => exact .int number
  | text string => exact .text string
  | @list items _ ih =>
      rw [sortKeys, sortKeysItems_map]
      apply Same.list (List.length_map _)
      intro place one other first second
      rw [List.getElem?_map, second] at first
      cases first
      exact ih other (List.mem_of_getElem? second)
  | @table rows distinct _ ih =>
      obtain ⟨sorted, equal, same⟩ := sortKeys_rows rows
      rw [equal]
      apply Same.table (sorted_keys same)
      intro key one other first second
      obtain ⟨held, inside, rfl⟩ := sorted_row same first
      have single : held = other :=
        congrArg Prod.snd (List.inj_on_of_nodup_map distinct inside second rfl)
      rw [← single]
      exact ih (key, held) inside

theorem Same.symm {one other : Value} (same : one.Same other) : other.Same one := by
  induction same with
  | null => exact .null
  | bool flag => exact .bool flag
  | int number => exact .int number
  | real number => exact .real number
  | text string => exact .text string
  | list size _ ih => exact .list size.symm fun place one other first second => ih place other one second first
  | table keys _ ih => exact .table keys.symm fun key one other first second => ih key other one second first

theorem Same.trans {one other third : Value} (same : one.Same other) (next : other.Same third) : one.Same third := by
  induction same generalizing third with
  | null | bool flag | int number | real number | text string => exact next
  | list size _ ih =>
      cases next with
      | list after later =>
          refine .list (size.trans after) fun place one third first last => ?_
          have inside := (List.getElem?_eq_some_iff.mp first).1
          rw [size] at inside
          have middle := List.getElem?_eq_getElem inside
          exact ih place one _ first middle (later place _ third middle last)
  | table keys _ ih =>
      cases next with
      | table after later =>
          refine .table (keys.trans after) fun key one third first last => ?_
          obtain ⟨row, held, rfl⟩ := List.mem_map.mp (keys.mem_iff.mp (List.mem_map.mpr ⟨_, first, rfl⟩))
          exact ih row.1 one row.2 first held (later row.1 row.2 third held last)

theorem same_sorted {one other : Value} (plain : one.Plain) (again : other.Plain)
    (equal : one.sortKeys = other.sortKeys) : one.Same other := by
  have other_sorted := sortKeys_same again
  rw [← equal] at other_sorted
  exact (sortKeys_same plain).symm.trans other_sorted

end BuildMatrix.Value
