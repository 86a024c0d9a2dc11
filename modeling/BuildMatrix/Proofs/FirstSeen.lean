import BuildMatrix.Pipeline.Levels
import Mathlib.Data.List.Basic
import Mathlib.Data.List.Induction
import Mathlib.Data.List.Nodup

namespace BuildMatrix

variable {α : Type} [BEq α] [LawfulBEq α]

theorem eraseDups_concat (items : List α) (item : α) :
    (items ++ [item]).eraseDups = if item ∈ items then items.eraseDups else items.eraseDups ++ [item] := by
  rw [List.eraseDups_append]
  by_cases present : item ∈ items
  · simp [List.removeAll, present]
  · simp [List.removeAll, present, List.eraseDups_cons]

theorem eraseDups_nodup (items : List α) : items.eraseDups.Nodup := by
  induction items using List.reverseRecOn with
  | nil => exact List.nodup_nil
  | append_singleton items item ih =>
      rw [eraseDups_concat]
      split
      · exact ih
      · rename_i fresh
        rw [List.nodup_append]
        refine ⟨ih, by simp, ?_⟩
        intro held present added new equal
        rw [List.mem_singleton.mp new] at equal
        exact fresh (equal ▸ List.mem_eraseDups.mp present)

theorem eraseDups_sublist (items : List α) : items.eraseDups.Sublist items := by
  induction items using List.reverseRecOn with
  | nil => exact List.Sublist.refl []
  | append_singleton items item ih =>
      rw [eraseDups_concat]
      split
      · exact ih.trans (List.sublist_append_left _ _)
      · exact ih.append (List.Sublist.refl _)

theorem eraseDups_distinct {items : List α} (distinct : items.Nodup) : items.eraseDups = items := by
  apply (eraseDups_sublist items).eq_of_length
  refine (List.Perm.length_eq ?_)
  exact (List.perm_ext_iff_of_nodup (eraseDups_nodup items) distinct).mpr fun _ => List.mem_eraseDups

theorem eraseDups_perm {items others : List α} (same : items.Perm others) : items.eraseDups.Perm others.eraseDups := by
  rw [List.perm_ext_iff_of_nodup (eraseDups_nodup items) (eraseDups_nodup others)]
  intro item
  rw [List.mem_eraseDups, List.mem_eraseDups, same.mem_iff]

theorem eraseDups_again (items later : List α) :
    (items.eraseDups ++ later).eraseDups = (items ++ later).eraseDups := by
  induction later using List.reverseRecOn with
  | nil => rw [List.append_nil, List.append_nil, eraseDups_distinct (eraseDups_nodup items)]
  | append_singleton later item ih =>
      rw [← List.append_assoc, ← List.append_assoc, eraseDups_concat, eraseDups_concat, ih]
      simp only [List.mem_append, List.mem_eraseDups]

theorem eraseDups_filter (keep : α → Bool) (items : List α) :
    (items.filter keep).eraseDups = items.eraseDups.filter keep := by
  induction items using List.reverseRecOn with
  | nil => rfl
  | append_singleton items item ih =>
      by_cases kept : keep item = true
      · by_cases present : item ∈ items
        · simp [List.filter_append, kept, eraseDups_concat, present, ih]
        · simp [List.filter_append, kept, eraseDups_concat, present, ih]
      · by_cases present : item ∈ items
        · simp [List.filter_append, kept, eraseDups_concat, present, ih]
        · simp [List.filter_append, kept, eraseDups_concat, present, ih]

-- What is kept stands in the order in which it first came up.
theorem eraseDups_ordered (items : List α) :
    items.eraseDups.Pairwise fun one other => items.idxOf one < items.idxOf other := by
  induction items using List.reverseRecOn with
  | nil => exact .nil
  | append_singleton items item ih =>
      have earlier : items.eraseDups.Pairwise fun one other =>
          (items ++ [item]).idxOf one < (items ++ [item]).idxOf other := by
        refine ih.imp_of_mem ?_
        intro one other first second less
        rw [List.idxOf_append_of_mem (List.mem_eraseDups.mp first),
          List.idxOf_append_of_mem (List.mem_eraseDups.mp second)]
        exact less
      rw [eraseDups_concat]
      split
      · exact earlier
      · rename_i fresh
        refine List.pairwise_append.mpr ⟨earlier, List.pairwise_singleton _ _, ?_⟩
        intro one present other new
        rw [List.mem_singleton.mp new, List.idxOf_append_of_mem (List.mem_eraseDups.mp present),
          List.idxOf_append_of_notMem fresh]
        have within := List.idxOf_lt_length_of_mem (List.mem_eraseDups.mp present)
        omega

theorem distinct_ordered {items : List α} (distinct : items.Nodup) :
    items.Pairwise fun one other => items.idxOf one < items.idxOf other := by
  have ordered := eraseDups_ordered items
  rwa [eraseDups_distinct distinct] at ordered

theorem idxOf_filter (keep : α → Bool) (items : List α) {one other : α} (first : keep one = true)
    (second : keep other = true) (less : items.idxOf one < items.idxOf other) :
    (items.filter keep).idxOf one < (items.filter keep).idxOf other := by
  induction items with
  | nil => simp at less
  | cons item rest ih =>
      by_cases here : item = one
      · subst item
        have apart : (one == other) = false := by
          apply Classical.byContradiction
          intro same
          have equal : one = other := by simpa using same
          subst other
          exact Nat.lt_irrefl _ less
        rw [List.filter_cons_of_pos first, List.idxOf_cons_self, List.idxOf_cons, apart]
        exact Nat.succ_pos _
      · have missed : (item == one) = false := by simpa using here
        rw [List.idxOf_cons, missed] at less
        by_cases there : item = other
        · subst item
          simp at less
        · have passed : (item == other) = false := by simpa using there
          rw [List.idxOf_cons, passed] at less
          have closer := ih (Nat.lt_of_succ_lt_succ less)
          by_cases kept : keep item = true
          · rw [List.filter_cons_of_pos kept, List.idxOf_cons, List.idxOf_cons, missed, passed]
            exact Nat.succ_lt_succ closer
          · rw [List.filter_cons_of_neg kept]
            exact closer

-- In one order, the same members make the same list.
theorem sublist_same {items one other : List α} (distinct : items.Nodup) (first : one.Sublist items)
    (second : other.Sublist items) (members : ∀ item, item ∈ one ↔ item ∈ other) : one = other := by
  have ordered := distinct_ordered distinct
  have same : one.Perm other :=
    (List.perm_ext_iff_of_nodup (distinct.sublist first) (distinct.sublist second)).mpr members
  refine same.eq_of_pairwise ?_ (ordered.sublist first) (ordered.sublist second)
  intro before after _ _ less more
  omega

theorem eraseDups_map {β : Type} [BEq β] [LawfulBEq β] (tag : α → β) (apart : Function.Injective tag)
    (items : List α) : (items.map tag).eraseDups = items.eraseDups.map tag := by
  induction items using List.reverseRecOn with
  | nil => rfl
  | append_singleton items item ih =>
      rw [List.map_append, List.map_singleton, eraseDups_concat, eraseDups_concat, apply_ite (List.map tag)]
      simp only [List.mem_map_of_injective apart, ih, List.map_append, List.map_singleton]

theorem idxOf_map {β : Type} [BEq β] [LawfulBEq β] (tag : α → β) (apart : Function.Injective tag)
    (items : List α) (item : α) : (items.map tag).idxOf (tag item) = items.idxOf item := by
  induction items with
  | nil => rfl
  | cons first rest ih =>
      rw [List.map_cons, List.idxOf_cons, List.idxOf_cons, ih]
      by_cases same : first = item
      · simp [same]
      · have missed : (tag first == tag item) = false := by simpa using fun equal => same (apart equal)
        have passed : (first == item) = false := by simpa using same
        rw [missed, passed]

end BuildMatrix
