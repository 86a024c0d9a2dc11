import BuildMatrix.Proofs.Outcomes
import BuildMatrix.Value.Order
import Mathlib.Data.List.Sort
import Mathlib.Data.String.Basic

namespace BuildMatrix

theorem sorted_by {α : Type} (key : α → String) (items : List α) :
    (items.mergeSort fun a b => decide (key a ≤ key b)).Pairwise fun a b => key a ≤ key b := by
  have sorted : (items.mergeSort fun a b => decide (key a ≤ key b)).Pairwise fun a b => decide (key a ≤ key b) := by
    refine List.pairwise_mergeSort (fun a b c first second => ?_) (fun a b => ?_) items
    · simp only [decide_eq_true_eq] at first second ⊢
      exact le_trans first second
    · simp only [Bool.or_eq_true, decide_eq_true_eq]
      exact le_total (key a) (key b)
  exact sorted.imp of_decide_eq_true

namespace Value

-- Texts can be put in order, whatever they are: only values of different sorts have none.

def Texts (values : List Value) : Prop := ∀ value ∈ values, ∃ string, value = .text string

variable {value last : Value} {values others : List Value}

theorem isBefore_texts {one other : Value} (first : ∃ string, one = .text string)
    (second : ∃ string, other = .text string) : ∃ before, one.isBefore other = .ok before := by
  obtain ⟨string, rfl⟩ := first
  obtain ⟨text, rfl⟩ := second
  exact ⟨_, rfl⟩

theorem texts_perm (same : values.Perm others) (texts : Texts others) : Texts values :=
  fun value present => texts value (same.mem_iff.mp present)

theorem goingOn_texts (down : Bool) (first : ∃ string, last = .text string) (texts : Texts values) :
    ∃ further rest, goingOn down last values = .ok (further, rest) ∧ further ++ rest = values := by
  induction values generalizing last with
  | nil => exact ⟨[], [], rfl, rfl⟩
  | cons value later ih =>
      obtain ⟨head, tail⟩ := List.forall_mem_cons.mp texts
      obtain ⟨before, compared⟩ := isBefore_texts head first
      obtain ⟨further, rest, ran, split⟩ := ih head tail
      rw [goingOn, compared]
      by_cases same : before = down
      · refine ⟨value :: further, rest, ?_, by rw [List.cons_append, split]⟩
        simp [bind, Except.bind, same, ran, pure, Except.pure]
      · refine ⟨[], value :: later, ?_, rfl⟩
        simp [bind, Except.bind, same, pure, Except.pure]

theorem insertSorted_texts (first : ∃ string, value = .text string) (texts : Texts values) :
    ∃ result, insertSorted value values = .ok result ∧ result.Perm (value :: values) := by
  fun_induction insertSorted value values with
  | case1 values found => exact ⟨_, rfl, List.perm_append_singleton _ _⟩
  | case2 values middle above found below lower upper =>
      have split : below ++ middle :: above = values := by rw [← found, List.take_append_drop]
      obtain ⟨smaller, center, greater⟩ : Texts below ∧ (∃ string, middle = .text string) ∧ Texts above := by
        simpa [← split, Texts, or_imp, forall_and] using texts
      obtain ⟨before, compared⟩ := isBefore_texts first center
      rw [compared, ← split]
      cases before with
      | true =>
          obtain ⟨result, ran, same⟩ := lower smaller
          refine ⟨result ++ middle :: above, ?_, same.append_right _⟩
          simp [bind, Except.bind, ran, pure, Except.pure]
      | false =>
          obtain ⟨result, ran, same⟩ := upper greater
          refine ⟨below ++ middle :: result, ?_, ?_⟩
          · simp [bind, Except.bind, ran, pure, Except.pure]
          · have later := (same.cons middle).trans (List.Perm.swap value middle above)
            exact (later.append_left below).trans List.perm_middle

theorem insertAll_texts (added : Texts values) (texts : Texts others) :
    ∃ result, values.foldlM (fun held value => insertSorted value held) others = .ok result ∧
      result.Perm (values ++ others) := by
  induction values generalizing others with
  | nil => exact ⟨others, rfl, .refl _⟩
  | cons value rest ih =>
      obtain ⟨head, tail⟩ := List.forall_mem_cons.mp added
      obtain ⟨placed, ran, same⟩ := insertSorted_texts head texts
      have all : Texts placed := texts_perm same (List.forall_mem_cons.mpr ⟨head, texts⟩)
      obtain ⟨result, finished, whole⟩ := ih tail all
      refine ⟨result, ?_, whole.trans ((same.append_left rest).trans List.perm_middle)⟩
      rw [List.foldlM_cons]
      exact bind_ok.mpr ⟨placed, ran, finished⟩

theorem sorted_texts (texts : Texts values) : ∃ result, sorted values = .ok result ∧ result.Perm values := by
  match values with
  | [] => exact ⟨[], rfl, .refl _⟩
  | [value] => exact ⟨[value], rfl, .refl _⟩
  | first :: second :: rest =>
      obtain ⟨head, others⟩ := List.forall_mem_cons.mp texts
      obtain ⟨next, later⟩ := List.forall_mem_cons.mp others
      obtain ⟨down, compared⟩ := isBefore_texts next head
      obtain ⟨further, left, ran, rfl⟩ := goingOn_texts down next later
      obtain ⟨ahead, behind⟩ : Texts further ∧ Texts left := by
        simpa [Texts, or_imp, forall_and] using later
      have start : Texts (first :: second :: further) :=
        List.forall_mem_cons.mpr ⟨head, List.forall_mem_cons.mpr ⟨next, ahead⟩⟩
      have turned : (if down then (first :: second :: further).reverse else first :: second :: further).Perm
          (first :: second :: further) := by
        cases down with
        | true => exact List.reverse_perm _
        | false => exact .refl _
      obtain ⟨result, finished, same⟩ := insertAll_texts behind (texts_perm turned start)
      refine ⟨result, ?_, same.trans ((turned.append_left left).trans List.perm_append_comm)⟩
      rw [sorted, compared]
      simpa [bind, Except.bind, ran] using finished

end Value
end BuildMatrix
