import BuildMatrix.Mapping
import BuildMatrix.Proofs.FirstSeen
import Mathlib.Data.List.Nodup

namespace BuildMatrix

variable {α : Type}

theorem placeRow_fresh (key : String) (value : α) (rows : List (String × α))
    (fresh : key ∉ rows.map Prod.fst) : placeRow key value rows = rows ++ [(key, value)] := by
  induction rows with
  | nil => rfl
  | cons row rest ih =>
      obtain ⟨held, kept⟩ := row
      simp only [List.map_cons, List.mem_cons, not_or] at fresh
      have other : held ≠ key := fun equal => fresh.1 equal.symm
      simp [placeRow, other, ih fresh.2]

theorem placeRows_fresh (rows given : List (String × α)) (distinct : ((rows ++ given).map Prod.fst).Nodup) :
    placeRows rows given = rows ++ given := by
  induction given generalizing rows with
  | nil => simp [placeRows]
  | cons row rest ih =>
      have fresh : row.1 ∉ rows.map Prod.fst := by
        intro present
        rw [List.map_append, List.nodup_append] at distinct
        exact distinct.2.2 _ present row.1 (by simp) rfl
      have placed : placeRows rows (row :: rest) = placeRows (rows ++ [row]) rest := by
        simp only [placeRows, List.foldl_cons, placeRow_fresh row.1 row.2 rows fresh]
      rw [placed, ih (rows ++ [row]) (by simpa using distinct)]
      simp

theorem Mapping.ofList_rows (rows : List (String × α)) (distinct : (rows.map Prod.fst).Nodup) :
    (Mapping.ofList rows).rows = rows := placeRows_fresh [] rows distinct

theorem placeRows_keys (rows given : List (String × α)) (distinct : (rows.map Prod.fst).Nodup) :
    (placeRows rows given).map Prod.fst = (rows.map Prod.fst ++ given.map Prod.fst).eraseDups := by
  induction given generalizing rows with
  | nil => simp [placeRows, eraseDups_distinct distinct]
  | cons row rest ih =>
      have placed : (placeRow row.1 row.2 rows).map Prod.fst = (rows.map Prod.fst ++ [row.1]).eraseDups := by
        rw [placeRow_keys, eraseDups_concat, eraseDups_distinct distinct]
      have next := ih _ (placeRow_distinct row.1 row.2 rows distinct)
      rw [placed, eraseDups_again, List.append_assoc] at next
      exact next

theorem placeRows_lookup (rows given : List (String × α)) (distinct : (given.map Prod.fst).Nodup)
    (asked : String) : (placeRows rows given).lookup asked = (given.lookup asked).or (rows.lookup asked) := by
  induction given generalizing rows with
  | nil => rfl
  | cons row rest ih =>
      obtain ⟨key, value⟩ := row
      obtain ⟨fresh, apart⟩ := List.nodup_cons.mp distinct
      have next : (placeRows rows ((key, value) :: rest)).lookup asked =
          (rest.lookup asked).or ((placeRow key value rows).lookup asked) := ih _ apart
      rw [next, placeRow_lookup]
      by_cases same : asked = key
      · subst asked
        have none : rest.lookup key = none := by
          rw [List.lookup_eq_none_iff]
          intro other present
          have apart : key ≠ other.1 := fun equal => fresh (List.mem_map.mpr ⟨other, present, equal.symm⟩)
          simpa using apart
        simp [none]
      · have missed : (asked == key) = false := by simpa using same
        simp [List.lookup_cons, missed, same]

namespace Mapping

-- Of equal keys the upper value holds; a key stands where it first came up.

theorem keys_overlay (base top : Mapping α) : (base.overlay top).keys = (base.keys ++ top.keys).eraseDups :=
  placeRows_keys base.rows top.rows base.distinct

theorem get?_overlay (base top : Mapping α) (key : String) :
    (base.overlay top).get? key = (top.get? key).or (base.get? key) :=
  placeRows_lookup base.rows top.rows top.distinct key

theorem mem_rows {mapping : Mapping α} {key : String} {value : α} (found : mapping.get? key = some value) :
    (key, value) ∈ mapping.rows := by
  obtain ⟨before, after, split, _⟩ := List.lookup_eq_some_iff.mp found
  rw [split]
  exact List.mem_append_right _ List.mem_cons_self

theorem get?_row {mapping : Mapping α} {key : String} {value : α} (present : (key, value) ∈ mapping.rows) :
    mapping.get? key = some value := by
  cases found : mapping.get? key with
  | none => exact False.elim ((get?_none_iff mapping key).mp found (List.mem_map.mpr ⟨_, present, rfl⟩))
  | some held =>
      have same := List.inj_on_of_nodup_map mapping.distinct (mem_rows found) present rfl
      exact congrArg some (congrArg Prod.snd same)

theorem rows_listed (mapping : Mapping α) :
    mapping.rows.map (fun row => (row.1, some row.2)) = mapping.keys.map fun key => (key, mapping.get? key) := by
  rw [keys, List.map_map]
  refine List.map_congr_left fun row present => ?_
  rw [Function.comp_apply, get?_row present]

theorem eq_of_keys {one other : Mapping α} (keys : one.keys = other.keys)
    (values : ∀ key, one.get? key = other.get? key) : one = other := by
  have listed : one.rows.map (fun row => (row.1, some row.2)) = other.rows.map fun row => (row.1, some row.2) := by
    rw [rows_listed, rows_listed, keys]
    simp only [values]
  have apart : Function.Injective fun row : String × α => (row.1, some row.2) := by
    rintro ⟨key, value⟩ ⟨also, held⟩ equal
    simpa using equal
  cases one
  cases other
  cases List.map_injective_iff.mpr apart listed
  rfl

def SameEntries (one other : Mapping α) : Prop := ∀ key, one.get? key = other.get? key

variable {one other : Mapping α}

theorem sameEntries_keys (same : one.SameEntries other) : one.keys.Perm other.keys := by
  rw [List.perm_ext_iff_of_nodup one.keys_distinct other.keys_distinct]
  intro key
  rw [← not_iff_not, ← get?_none_iff, ← get?_none_iff, same key]

theorem sameEntries_overlay {top second : Mapping α} (same : one.SameEntries other) (upper : top.SameEntries second) :
    (one.overlay top).SameEntries (other.overlay second) := by
  intro key
  rw [get?_overlay, get?_overlay, same key, upper key]

def SharesNoKey (one other : Mapping α) : Prop := ∀ key ∈ one.keys, key ∉ other.keys

theorem sharesNoKey_silent (apart : one.SharesNoKey other) (key : String) :
    one.get? key = none ∨ other.get? key = none := by
  rw [get?_none_iff, get?_none_iff]
  by_cases held : key ∈ one.keys
  · exact .inr (apart key held)
  · exact .inl held

theorem sameEntries_swap (mapping : Mapping α) {first second : String} (apart : first ≠ second) (value last : α) :
    ((mapping.insert first value).insert second last).SameEntries
      ((mapping.insert second last).insert first value) := by
  intro key
  rw [get?_insert, get?_insert, get?_insert, get?_insert]
  by_cases here : key = first
  · have other : key ≠ second := fun equal => apart (here.symm.trans equal)
    rw [if_neg other, if_pos here, if_pos here]
  · rw [if_neg here, if_neg here]

end Mapping

end BuildMatrix
