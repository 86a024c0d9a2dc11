import BuildMatrix.Proofs.FirstSeen

namespace BuildMatrix

variable {α β κ : Type} {keep : β → Bool} {sort : α → Bool} {make : α → List β}

-- What is made of an item shows whether the item is of a sort: picking afterwards
-- is picking before.
theorem filter_flatMap_sort (same : ∀ item, ∀ made ∈ make item, keep made = sort item) (items : List α) :
    (items.flatMap make).filter keep = (items.filter sort).flatMap make := by
  induction items with
  | nil => rfl
  | cons item rest ih =>
      rw [List.flatMap_cons, List.filter_append, ih]
      cases sorted : sort item with
      | true =>
          have all : (make item).filter keep = make item :=
            List.filter_eq_self.mpr fun made held => (same item made held).trans sorted
          rw [all, List.filter_cons_of_pos sorted, List.flatMap_cons]
      | false =>
          have none : (make item).filter keep = [] := by
            refine List.filter_eq_nil_iff.mpr fun made held => ?_
            rw [same item made held, sorted]
            exact Bool.false_ne_true
          rw [none, List.filter_cons_of_neg (by simp [sorted]), List.nil_append]

variable [BEq κ] [LawfulBEq κ] {classes : List κ} {classOf : α → κ}

def byClass (classes : List κ) (classOf : α → κ) (items : List α) : List α :=
  classes.flatMap fun each => items.filter fun item => classOf item == each

theorem byClass_filter (distinct : classes.Nodup) {each : κ} (listed : each ∈ classes) (items : List α) :
    (byClass classes classOf items).filter (fun item => classOf item == each) =
      items.filter fun item => classOf item == each := by
  have same : ∀ other, ∀ item ∈ items.filter (fun item => classOf item == other),
      (classOf item == each) = (other == each) := by
    intro other item held
    rw [eq_of_beq (List.mem_filter.mp held).2]
  rw [byClass, filter_flatMap_sort same, List.filter_beq, List.count_eq_one_of_mem distinct listed]
  exact List.append_nil _

theorem byClass_perm (distinct : classes.Nodup) {items : List α} (covered : ∀ item ∈ items, classOf item ∈ classes) :
    (byClass classes classOf items).Perm items := by
  induction classes generalizing items with
  | nil =>
      rw [List.eq_nil_iff_forall_not_mem.mpr fun item held => List.not_mem_nil (covered item held)]
      exact .nil
  | cons first rest ih =>
      obtain ⟨fresh, distinct⟩ := List.nodup_cons.mp distinct
      have elsewhere : byClass rest classOf items =
          byClass rest classOf (items.filter fun item => !(classOf item == first)) := by
        refine List.flatMap_congr fun other held => ?_
        rw [List.filter_filter]
        refine List.filter_congr fun item _ => ?_
        cases met : classOf item == other with
        | false => rfl
        | true =>
            have apart : other ≠ first := fun same => fresh (same ▸ held)
            simp [eq_of_beq met, apart]
      have left : ∀ item ∈ items.filter (fun item => !(classOf item == first)), classOf item ∈ rest := by
        intro item held
        obtain ⟨present, foreign⟩ := List.mem_filter.mp held
        exact (List.mem_cons.mp (covered item present)).resolve_left (by simpa using foreign)
      have parted : byClass (first :: rest) classOf items = (items.filter fun item => classOf item == first) ++
          byClass rest classOf (items.filter fun item => !(classOf item == first)) := by
        rw [← elsewhere]
        rfl
      rw [parted]
      exact ((ih distinct left).append_left _).trans (List.filter_append_perm _ items)

theorem byClass_ordered (distinct : classes.Nodup) (items : List α) :
    (byClass classes classOf items).Pairwise fun one other =>
      classes.idxOf (classOf one) ≤ classes.idxOf (classOf other) := by
  have known : ∀ each, ∀ item ∈ items.filter (fun item => classOf item == each), classOf item = each :=
    fun each item held => eq_of_beq (List.mem_filter.mp held).2
  refine List.pairwise_flatMap.mpr ⟨?_, ?_⟩
  · intro each _
    refine List.pairwise_of_forall_mem_list fun one first other second => ?_
    exact Nat.le_of_eq (by rw [known each one first, known each other second])
  · refine (distinct_ordered distinct).imp fun less one first other second => ?_
    rw [known _ one first, known _ other second]
    exact Nat.le_of_lt less

end BuildMatrix
