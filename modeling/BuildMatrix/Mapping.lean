namespace BuildMatrix

-- Rows of keys and values. Setting a key again keeps its place and replaces
-- its value; a new key goes to the end.
def placeRow {α : Type} (key : String) (value : α) : List (String × α) → List (String × α)
  | [] => [(key, value)]
  | (k, v) :: rest => if k = key then (k, value) :: rest else (k, v) :: placeRow key value rest

def placeRows {α : Type} (rows given : List (String × α)) : List (String × α) :=
  given.foldl (fun placed row => placeRow row.1 row.2 placed) rows

theorem placeRow_keys {α : Type} (key : String) (value : α) (rows : List (String × α)) :
    (placeRow key value rows).map Prod.fst =
      if key ∈ rows.map Prod.fst then rows.map Prod.fst else rows.map Prod.fst ++ [key] := by
  induction rows with
  | nil => simp [placeRow]
  | cons row rest ih =>
      obtain ⟨k, v⟩ := row
      by_cases same : k = key
      · simp [placeRow, same]
      · have other : key ≠ k := fun equal => same equal.symm
        simp only [placeRow, same, if_false, List.map_cons, ih, List.mem_cons, other, false_or]
        split <;> simp

theorem placeRow_distinct {α : Type} (key : String) (value : α) (rows : List (String × α))
    (distinct : (rows.map Prod.fst).Nodup) : ((placeRow key value rows).map Prod.fst).Nodup := by
  rw [placeRow_keys]
  split
  · exact distinct
  · rename_i fresh
    rw [List.nodup_append]
    refine ⟨distinct, by simp, ?_⟩
    intro held present added new equal
    rw [List.mem_singleton.mp new] at equal
    exact fresh (equal ▸ present)

theorem placeRow_lookup {α : Type} (key asked : String) (value : α) (rows : List (String × α)) :
    (placeRow key value rows).lookup asked = if asked = key then some value else rows.lookup asked := by
  induction rows with
  | nil =>
      by_cases same : asked = key
      · simp [placeRow, same]
      · have missed : (asked == key) = false := by simp [same]
        simp only [placeRow, List.lookup_cons, missed, List.lookup_nil, same, if_false]
  | cons row rest ih =>
      obtain ⟨k, v⟩ := row
      by_cases held : k = key
      · subst k
        by_cases same : asked = key
        · simp [placeRow, same]
        · have missed : (asked == key) = false := by simp [same]
          simp only [placeRow, List.lookup_cons, missed, same, if_true, if_false]
      · by_cases here : asked = k
        · subst asked
          simp [placeRow, held]
        · have missed : (asked == k) = false := by simp [here]
          simp only [placeRow, held, if_false, List.lookup_cons, missed, ih]

theorem placeRows_distinct {α : Type} (rows given : List (String × α))
    (distinct : (rows.map Prod.fst).Nodup) : ((placeRows rows given).map Prod.fst).Nodup := by
  induction given generalizing rows with
  | nil => exact distinct
  | cons row rest ih => exact ih _ (placeRow_distinct row.1 row.2 rows distinct)

structure Mapping (α : Type) where
  rows : List (String × α)
  distinct : (rows.map Prod.fst).Nodup

namespace Mapping

variable {α β : Type}

def empty : Mapping α := ⟨[], by simp⟩

instance : EmptyCollection (Mapping α) := ⟨empty⟩
instance : Inhabited (Mapping α) := ⟨empty⟩

def insert (mapping : Mapping α) (key : String) (value : α) : Mapping α :=
  ⟨placeRow key value mapping.rows, placeRow_distinct key value mapping.rows mapping.distinct⟩

def overlay (base top : Mapping α) : Mapping α :=
  ⟨placeRows base.rows top.rows, placeRows_distinct base.rows top.rows base.distinct⟩

def ofList (rows : List (String × α)) : Mapping α :=
  ⟨placeRows [] rows, placeRows_distinct [] rows (by simp)⟩

def keys (mapping : Mapping α) : List String := mapping.rows.map Prod.fst
def size (mapping : Mapping α) : Nat := mapping.rows.length
def isEmpty (mapping : Mapping α) : Bool := mapping.rows.isEmpty
def contains (mapping : Mapping α) (key : String) : Bool := mapping.keys.contains key
def get? (mapping : Mapping α) (key : String) : Option α := mapping.rows.lookup key

theorem keys_distinct (mapping : Mapping α) : mapping.keys.Nodup := mapping.distinct

theorem keys_insert (mapping : Mapping α) (key : String) (value : α) :
    (mapping.insert key value).keys =
      if key ∈ mapping.keys then mapping.keys else mapping.keys ++ [key] :=
  placeRow_keys key value mapping.rows

theorem get?_insert (mapping : Mapping α) (key asked : String) (value : α) :
    (mapping.insert key value).get? asked = if asked = key then some value else mapping.get? asked :=
  placeRow_lookup key asked value mapping.rows

theorem get?_none_iff (mapping : Mapping α) (key : String) :
    mapping.get? key = none ↔ key ∉ mapping.keys := by
  obtain ⟨rows, distinct⟩ := mapping
  change rows.lookup key = none ↔ key ∉ rows.map Prod.fst
  clear distinct
  induction rows with
  | nil => simp
  | cons row rest ih =>
      obtain ⟨k, v⟩ := row
      by_cases same : key = k
      · simp [same]
      · have missed : (key == k) = false := by simp [same]
        simp only [List.lookup_cons, missed, ih, List.map_cons, List.mem_cons, same, false_or]

end Mapping
end BuildMatrix
