import Mathlib.Data.List.Infix

namespace BuildMatrix

def PrefixFree (words : List String) : Prop :=
  ∀ one ∈ words, ∀ other ∈ words, one.toList <+: other.toList → one = other

instance (words : List String) : Decidable (PrefixFree words) :=
  inferInstanceAs (Decidable (∀ one ∈ words, ∀ other ∈ words, one.toList <+: other.toList → one = other))

theorem prefixFree_append {words : List String} (free : PrefixFree words) {one other : String}
    (first : one ∈ words) (second : other ∈ words) {tail rest : String} :
    one ++ tail = other ++ rest ↔ one = other ∧ tail = rest := by
  constructor
  · intro same
    have spelled : one.toList ++ tail.toList = other.toList ++ rest.toList := by
      simpa using congrArg String.toList same
    have opens : other.toList <+: one.toList ++ tail.toList := spelled ▸ List.prefix_append _ _
    have equal : one = other := by
      rcases List.prefix_or_prefix_of_prefix (List.prefix_append one.toList tail.toList) opens with shorter | longer
      · exact free one first other second shorter
      · exact (free other second one first longer).symm
    subst equal
    exact ⟨rfl, (String.append_right_inj one).mp same⟩
  · rintro ⟨rfl, rfl⟩
    rfl

theorem join_cons (word : String) (words : List String) : String.join (word :: words) = word ++ String.join words := by
  simp

-- A text made of such words can be cut into them in one way only.
theorem join_cut {words : List String} (free : PrefixFree words) (filled : "" ∉ words) {one other : List String}
    (first : ∀ word ∈ one, word ∈ words) (second : ∀ word ∈ other, word ∈ words)
    (same : String.join one = String.join other) : one = other := by
  have nonempty : ∀ word ∈ words, ∀ rest, String.join [] ≠ String.join (word :: rest) := by
    intro word known rest equal
    rw [join_cons] at equal
    have empty : word = "" := (String.append_eq_empty_iff.mp equal.symm).1
    exact filled (empty ▸ known)
  induction one generalizing other with
  | nil =>
      cases other with
      | nil => rfl
      | cons word rest => exact False.elim (nonempty word (second word (by simp)) rest same)
  | cons word rest ih =>
      cases other with
      | nil => exact False.elim (nonempty word (first word (by simp)) rest same.symm)
      | cons next others =>
          obtain ⟨known, inside⟩ := List.forall_mem_cons.mp first
          obtain ⟨listed, within⟩ := List.forall_mem_cons.mp second
          rw [join_cons, join_cons, prefixFree_append free known listed] at same
          rw [same.1, ih inside within same.2]

end BuildMatrix
