import Mathlib.Data.List.Forall2

namespace BuildMatrix

-- Steps that can fail, one after the other.

variable {α β ε : Type} {step : α → Except ε β} {items : List α} {results : List β} {failure : ε}

theorem isOk_value {outcome : Except ε α} (succeeds : outcome.isOk = true) : ∃ value, outcome = .ok value := by
  cases outcome with
  | error failure => cases succeeds
  | ok value => exact ⟨value, rfl⟩

theorem toOption_ok {outcome : Except ε α} {value : α} : outcome.toOption = some value ↔ outcome = .ok value := by
  cases outcome with
  | error failure => simp [Except.toOption]
  | ok held => simp [Except.toOption]

theorem bind_ok {first : Except ε α} {next : α → Except ε β} {result : β} :
    first >>= next = .ok result ↔ ∃ value, first = .ok value ∧ next value = .ok result := by
  cases first with
  | error failure => simp [bind, Except.bind]
  | ok value => simp [bind, Except.bind]

theorem bind_error {first : Except ε α} {next : α → Except ε β} :
    first >>= next = .error failure ↔
      first = .error failure ∨ ∃ value, first = .ok value ∧ next value = .error failure := by
  cases first with
  | error other => simp [bind, Except.bind]
  | ok value => simp [bind, Except.bind]

theorem mapM_ok : items.mapM step = .ok results ↔
    List.Forall₂ (fun item result => step item = .ok result) items results := by
  induction items generalizing results with
  | nil =>
      rw [List.mapM_nil, List.forall₂_nil_left_iff]
      exact ⟨fun equal => (Except.ok.inj equal).symm, fun equal => congrArg Except.ok equal.symm⟩
  | cons item rest ih =>
      rw [List.mapM_cons, bind_ok]
      constructor
      · rintro ⟨result, first, others⟩
        obtain ⟨later, ran, equal⟩ := bind_ok.mp others
        cases equal
        exact .cons first (ih.mp ran)
      · intro each
        cases each with
        | @cons _ result _ later first others =>
            exact ⟨result, first, bind_ok.mpr ⟨later, ih.mpr others, rfl⟩⟩

theorem related_left {related : α → β → Prop} (each : List.Forall₂ related items results) {item : α}
    (present : item ∈ items) : ∃ result ∈ results, related item result := by
  induction each with
  | nil => simp at present
  | @cons first result _ _ head _ ih =>
      rcases List.mem_cons.mp present with rfl | later
      · exact ⟨result, by simp, head⟩
      · obtain ⟨other, held, kept⟩ := ih later
        exact ⟨other, List.mem_cons_of_mem _ held, kept⟩

theorem related_right {related : α → β → Prop} (each : List.Forall₂ related items results) {result : β}
    (present : result ∈ results) : ∃ item ∈ items, related item result :=
  related_left each.flip present

theorem related_map {γ : Type} {related : α → β → Prop} {one : α → γ} {other : β → γ}
    (same : ∀ item result, related item result → other result = one item)
    (each : List.Forall₂ related items results) : results.map other = items.map one := by
  induction each with
  | nil => rfl
  | cons first _ ih => rw [List.map_cons, List.map_cons, same _ _ first, ih]

theorem related_flatMap {γ : Type} {related : α → β → Prop} {one : α → List γ} {other : β → List γ}
    (same : ∀ item result, related item result → other result = one item)
    (each : List.Forall₂ related items results) : results.flatMap other = items.flatMap one := by
  rw [List.flatMap_def, List.flatMap_def, related_map same each]

theorem mapM_error : items.mapM step = .error failure ↔
    ∃ before item after, items = before ++ item :: after ∧
      (∀ earlier ∈ before, ∃ result, step earlier = .ok result) ∧ step item = .error failure := by
  induction items with
  | nil =>
      constructor
      · intro failed
        cases failed
      · rintro ⟨before, item, after, equal, _⟩
        simp at equal
  | cons head rest ih =>
      rw [List.mapM_cons, bind_error]
      constructor
      · rintro (failed | ⟨result, passed, later⟩)
        · exact ⟨[], head, rest, rfl, by simp, failed⟩
        · have stopped : rest.mapM step = .error failure := by
            rcases bind_error.mp later with stopped | ⟨_, _, finished⟩
            · exact stopped
            · cases finished
          obtain ⟨before, item, after, rfl, earlier, failed⟩ := ih.mp stopped
          refine ⟨head :: before, item, after, rfl, ?_, failed⟩
          intro one present
          rcases List.mem_cons.mp present with rfl | old
          · exact ⟨result, passed⟩
          · exact earlier one old
      · rintro ⟨before, item, after, equal, earlier, failed⟩
        cases before with
        | nil =>
            cases equal
            exact .inl failed
        | cons first before =>
            cases equal
            obtain ⟨result, passed⟩ := earlier head (by simp)
            have stopped := ih.mpr ⟨before, item, after, rfl,
              fun one present => earlier one (List.mem_cons_of_mem _ present), failed⟩
            exact .inr ⟨result, passed, bind_error.mpr (.inl stopped)⟩

theorem mapM_stops (step : α → Except ε β) (before after : List α) {item : α} (failed : step item = .error failure) :
    ∃ told, (before ++ item :: after).mapM step = .error told ∧ (told = failure ∨ before.mapM step = .error told) := by
  cases ran : before.mapM step with
  | error told =>
      refine ⟨told, ?_, .inr rfl⟩
      rw [List.mapM_append, ran]
      rfl
  | ok results =>
      refine ⟨failure, mapM_error.mpr ⟨before, item, after, rfl, fun earlier present => ?_, failed⟩, .inl rfl⟩
      obtain ⟨result, _, passed⟩ := related_left (mapM_ok.mp ran) present
      exact ⟨result, passed⟩

theorem mapM_succeeds (each : ∀ item ∈ items, ∃ result, step item = .ok result) :
    ∃ results, items.mapM step = .ok results := by
  cases ran : items.mapM step with
  | ok results => exact ⟨results, rfl⟩
  | error failure =>
      obtain ⟨before, item, after, rfl, _, failed⟩ := mapM_error.mp ran
      obtain ⟨result, passed⟩ := each item (by simp)
      rw [failed] at passed
      cases passed

theorem foldlM_error {fold : β → α → Except ε β} {start : β} : items.foldlM fold start = .error failure ↔
    ∃ before item after state, items = before ++ item :: after ∧
      before.foldlM fold start = .ok state ∧ fold state item = .error failure := by
  induction items generalizing start with
  | nil =>
      constructor
      · intro failed
        cases failed
      · rintro ⟨before, item, after, _, equal, _⟩
        simp at equal
  | cons head rest ih =>
      rw [List.foldlM_cons, bind_error]
      constructor
      · rintro (failed | ⟨next, passed, later⟩)
        · exact ⟨[], head, rest, start, rfl, rfl, failed⟩
        · obtain ⟨before, item, after, state, rfl, reached, failed⟩ := ih.mp later
          refine ⟨head :: before, item, after, state, rfl, ?_, failed⟩
          rw [List.foldlM_cons]
          exact bind_ok.mpr ⟨next, passed, reached⟩
      · rintro ⟨before, item, after, state, equal, reached, failed⟩
        cases before with
        | nil =>
            cases equal
            cases reached
            exact .inl failed
        | cons first before =>
            cases equal
            rw [List.foldlM_cons] at reached
            obtain ⟨next, passed, reached⟩ := bind_ok.mp reached
            exact .inr ⟨next, passed, ih.mpr ⟨before, item, after, state, rfl, reached, failed⟩⟩

-- Two attempts side by side: both come to results that belong together, or both
-- stop with the same failure.
inductive InStep (related : α → β → Prop) : Except ε α → Except ε β → Prop where
  | succeed {one : α} {other : β} : related one other → InStep related (.ok one) (.ok other)
  | fail (failure : ε) : InStep related (.error failure) (.error failure)

theorem inStep_bind {γ δ : Type} {related : α → β → Prop} {also : γ → δ → Prop} {first : Except ε α}
    {second : Except ε β} {next : α → Except ε γ} {later : β → Except ε δ} (begun : InStep related first second)
    (goes : ∀ one other, related one other → InStep also (next one) (later other)) :
    InStep also (first >>= next) (second >>= later) := by
  cases begun with
  | succeed belong => exact goes _ _ belong
  | fail failure => exact .fail failure

theorem inStep_after {γ δ : Type} {also : γ → δ → Prop} {first : Except ε α} {next : α → Except ε γ}
    {later : α → Except ε δ} (goes : ∀ value, InStep also (next value) (later value)) :
    InStep also (first >>= next) (first >>= later) := by
  cases first with
  | error failure => exact .fail failure
  | ok value => exact goes value

theorem InStep.imp {related also : α → β → Prop} {first : Except ε α} {second : Except ε β}
    (weaker : ∀ one other, related one other → also one other) (same : InStep related first second) :
    InStep also first second := by
  cases same with
  | succeed belong => exact .succeed (weaker _ _ belong)
  | fail failure => exact .fail failure

theorem inStep_equal {first second : Except ε α} (same : InStep Eq first second) : first = second := by
  cases same with
  | succeed equal => rw [equal]
  | fail failure => rfl

section
variable {γ δ : Type} {also : α → γ → Prop} {partners : List γ}

theorem inStep_each {related : β → δ → Prop} {other : γ → Except ε δ}
    (each : ∀ item partner, also item partner → InStep related (step item) (other partner))
    (belong : List.Forall₂ also items partners) :
    InStep (List.Forall₂ related) (items.mapM step) (partners.mapM other) := by
  induction belong with
  | nil => exact .succeed .nil
  | cons head _ ih =>
      rw [List.mapM_cons, List.mapM_cons]
      refine inStep_bind (each _ _ head) fun _ _ first => inStep_bind ih fun _ _ others => ?_
      exact .succeed (.cons first others)

theorem inStep_mapM {related : β → δ → Prop} {other : α → Except ε δ}
    (each : ∀ item, InStep related (step item) (other item)) (items : List α) :
    InStep (List.Forall₂ related) (items.mapM step) (items.mapM other) := by
  refine inStep_each ?_ (List.forall₂_same.mpr fun _ _ => rfl)
  rintro item _ rfl
  exact each item

theorem inStep_foldlM {related : β → δ → Prop} {fold : β → α → Except ε β} {other : δ → γ → Except ε δ}
    (each : ∀ state second item partner, related state second → also item partner →
      InStep related (fold state item) (other second partner))
    (belong : List.Forall₂ also items partners) {start : β} {begun : δ} (same : related start begun) :
    InStep related (items.foldlM fold start) (partners.foldlM other begun) := by
  induction belong generalizing start begun with
  | nil => exact .succeed same
  | cons head _ ih =>
      rw [List.foldlM_cons, List.foldlM_cons]
      exact inStep_bind (each _ _ _ _ same head) fun _ _ next => ih next

end

end BuildMatrix
