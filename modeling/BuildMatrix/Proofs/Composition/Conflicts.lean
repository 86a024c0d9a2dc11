import BuildMatrix.Proofs.Composition.ClosedForm

namespace BuildMatrix

theorem firstSet_map {α β γ : Type} (read : α → Option β) (form : β → γ) (items : List α) :
    firstSet (fun item => (read item).map form) items = (firstSet read items).map form := by
  induction items with
  | nil => rfl
  | cons item rest ih => rw [firstSet_cons, firstSet_cons, ih, Option.map_or]

theorem Os.word_injective : Function.Injective Os.word := by
  intro one other same
  have told := ofWord?_word one
  rw [same, ofWord?_word other] at told
  exact (Option.some.inj told).symm

namespace JobTemplate

def systems (template : JobTemplate) (traits : List Trait) : List Os :=
  template.os.toList ++ traits.filterMap Trait.os
def architectures (template : JobTemplate) (traits : List Trait) : List String :=
  template.arch.toList ++ traits.filterMap Trait.arch

def OneSystem (template : JobTemplate) (traits : List Trait) : Prop := (template.systems traits).length ≤ 1

def OneArchitecture (template : JobTemplate) (traits : List Trait) : Prop :=
  ∀ one ∈ template.architectures traits, ∀ other ∈ template.architectures traits, one = other

def Composable (template : JobTemplate) (traits : List Trait) : Prop :=
  template.OneSystem traits ∧ template.OneArchitecture traits

def claim? (template : JobTemplate) (field : SingularField) : Option Claim :=
  (template.value? field).map fun value => ⟨template.owner field, value⟩

def claims (template : JobTemplate) (traits : List Trait) (field : SingularField) : List Claim :=
  (template.claim? field).toList ++ traits.filterMap fun trait => trait.claim? field

-- The first trait that cannot be added to those before it, and the two claims
-- that clash there.
structure StopsAt (template : JobTemplate) (before : List Trait) (trait : Trait) (field : SingularField)
    (held new : Claim) : Prop where
  fitted : template.Composable before
  unfit : ¬template.Composable (before ++ [trait])
  which : field = .os ↔ ¬template.OneSystem (before ++ [trait])
  first : (template.claims before field).head? = some held
  second : trait.claim? field = some new
  inForce : ∃ reached, template.extend before = .ok reached ∧ reached.value? field = some held.value

variable {template middle result : JobTemplate} {trait : Trait} {before traits : List Trait} {failure : Failure}

theorem claims_first (template : JobTemplate) (traits : List Trait) (field : SingularField) :
    (template.claims traits field).head? =
      (template.claim? field).or (firstSet (fun trait => trait.claim? field) traits) := by
  unfold claims firstSet
  cases template.claim? field with
  | none => rfl
  | some claim => rfl

theorem form_value (form : ClosedForm template traits result) (field : SingularField) :
    result.value? field =
      (template.value? field).or ((firstSet (fun trait => trait.claim? field) traits).map Claim.value) := by
  have told : ∀ trait : Trait, (trait.claim? field).map Claim.value = trait.value? field := by
    intro trait
    simp [Trait.claim?, Function.comp_def]
  rw [← firstSet_map]
  simp only [told]
  cases field with
  | os =>
      have words := firstSet_map Trait.os Os.word traits
      simp only [value?, Trait.value?, form.os, Option.map_or, words]
  | arch => exact form.arch

theorem form_claim (form : ClosedForm template traits result) (field : SingularField) :
    result.claim? field = (template.claims traits field).head? := by
  have value := form_value form field
  have owner := form.owners field
  rw [claims_first]
  unfold claim? JobTemplate.owner
  rw [value, owner]
  unfold newOwner
  cases template.value? field with
  | some kept => simp
  | none =>
      cases firstSet (fun trait => trait.claim? field) traits with
      | none => simp
      | some claim => simp

structure Clash (template : JobTemplate) (trait : Trait) (field : SingularField) (held new : Claim) : Prop where
  first : template.claim? field = some held
  second : trait.claim? field = some new
  apart : field.shared → new.value ≠ held.value

theorem arch_held (template : JobTemplate) : template.value? .arch = template.arch.map id := Option.map_id'.symm
theorem arch_asked (trait : Trait) : trait.value? .arch = trait.arch.map id := Option.map_id'.symm

-- Claims are told in words; the values behind them clash just the same.
theorem clash_values {α : Type} {field : SingularField} {word : α → String} {held new : Option α} {one other : Claim}
    (distinct : Function.Injective word) (first : template.value? field = held.map word)
    (second : trait.value? field = new.map word) :
    Clash template trait field one other ↔ ∃ kept asked, held = some kept ∧ new = some asked ∧
      ¬(field.shared ∧ asked = kept) ∧ one = ⟨template.owner field, word kept⟩ ∧ other = ⟨trait.title, word asked⟩ := by
  constructor
  · rintro ⟨claimed, asked, apart⟩
    rw [claim?, first] at claimed
    rw [Trait.claim?, second] at asked
    cases held with
    | none => cases claimed
    | some held =>
        cases new with
        | none => cases asked
        | some new =>
            cases claimed
            cases asked
            exact ⟨held, new, rfl, rfl, fun agreed => apart agreed.1 (congrArg word agreed.2), rfl, rfl⟩
  · rintro ⟨kept, asked, rfl, rfl, apart, rfl, rfl⟩
    refine ⟨?_, ?_, fun shared same => apart ⟨shared, distinct same⟩⟩
    · rw [claim?, first]
      rfl
    · rw [Trait.claim?, second]
      rfl

theorem settleField_error {α : Type} [DecidableEq α] {field : SingularField} {word : α → String}
    {held new : Option α} (noted : Mapping String) (distinct : Function.Injective word)
    (first : template.value? field = held.map word) (second : trait.value? field = new.map word) :
    template.settleField trait field word held new noted = .error failure ↔
      ∃ one other, Clash template trait field one other ∧
        failure = .conflict field one other (template.traits ++ [trait.title]) := by
  simp only [clash_values distinct first second]
  cases new with
  | none => simp [settleField_silent]
  | some asked =>
      cases held with
      | none => simp [settleField_open]
      | some kept =>
          rw [settleField_held]
          by_cases agreed : field.shared ∧ asked = kept
          · simp [agreed]
          · rw [if_neg agreed]
            constructor
            · intro failed
              cases failed
              exact ⟨_, _, ⟨kept, asked, rfl, rfl, agreed, rfl, rfl⟩, rfl⟩
            · rintro ⟨_, _, ⟨_, _, held, new, _, rfl, rfl⟩, rfl⟩
              cases held
              cases new
              rfl

theorem os_error (noted : Mapping String) :
    template.settleField trait .os Os.word template.os trait.os noted = .error failure ↔
      ∃ one other, Clash template trait .os one other ∧
        failure = .conflict .os one other (template.traits ++ [trait.title]) :=
  settleField_error noted Os.word_injective rfl rfl

theorem arch_error (noted : Mapping String) :
    template.settleField trait .arch id template.arch trait.arch noted = .error failure ↔
      ∃ one other, Clash template trait .arch one other ∧
        failure = .conflict .arch one other (template.traits ++ [trait.title]) :=
  settleField_error noted Function.injective_id (arch_held template) (arch_asked trait)

theorem merge_error : template.merge trait = .error failure ↔ ∃ field held new,
    Clash template trait field held new ∧ (field = .arch → ∀ one other, ¬Clash template trait .os one other) ∧
      failure = .conflict field held new (template.traits ++ [trait.title]) := by
  unfold merge
  rw [bind_error]
  constructor
  · rintro (failed | ⟨⟨os, noted⟩, settled, later⟩)
    · obtain ⟨held, new, clash, rfl⟩ := (os_error _).mp failed
      exact ⟨.os, held, new, clash, by simp, rfl⟩
    · rcases bind_error.mp later with failed | ⟨_, _, finished⟩
      · obtain ⟨held, new, clash, rfl⟩ := (arch_error _).mp failed
        refine ⟨.arch, held, new, clash, ?_, rfl⟩
        intro _ one other wrong
        have stopped := (os_error template.owners).mpr ⟨one, other, wrong, rfl⟩
        rw [settled] at stopped
        cases stopped
      · cases finished
  · rintro ⟨field, held, new, clash, earlier, rfl⟩
    cases field with
    | os => exact .inl ((os_error _).mpr ⟨held, new, clash, rfl⟩)
    | arch =>
        cases settled : template.settleField trait .os Os.word template.os trait.os template.owners with
        | error failure =>
            obtain ⟨one, other, wrong, _⟩ := (os_error _).mp settled
            exact False.elim (earlier rfl one other wrong)
        | ok state =>
            obtain ⟨os, noted⟩ := state
            refine .inr ⟨(os, noted), rfl, bind_error.mpr (.inl ?_)⟩
            exact (arch_error _).mpr ⟨held, new, clash, rfl⟩

theorem merge_fits : (∃ result, template.merge trait = .ok result) ↔
    ∀ field held new, ¬Clash template trait field held new := by
  constructor
  · rintro ⟨result, merged⟩ field held new clash
    have refused : ∃ failure, template.merge trait = .error failure := by
      by_cases earlier : ∃ one other, Clash template trait .os one other
      · obtain ⟨one, other, wrong⟩ := earlier
        exact ⟨_, merge_error.mpr ⟨.os, one, other, wrong, by simp, rfl⟩⟩
      · refine ⟨_, merge_error.mpr ⟨field, held, new, clash, ?_, rfl⟩⟩
        exact fun _ one other wrong => earlier ⟨one, other, wrong⟩
    obtain ⟨failure, failed⟩ := refused
    rw [merged] at failed
    cases failed
  · intro free
    cases merged : template.merge trait with
    | ok result => exact ⟨result, rfl⟩
    | error failure =>
        obtain ⟨field, held, new, clash, _⟩ := merge_error.mp merged
        exact False.elim (free field held new clash)

theorem single_concat {α : Type} (held : List α) (new : Option α) : (held ++ new.toList).length ≤ 1 ↔
    held.length ≤ 1 ∧ ∀ kept asked, held.head? = some kept → new = some asked → False := by
  cases new with
  | none => simp
  | some asked =>
      cases held with
      | nil => simp
      | cons kept rest => simp

theorem alike_concat {α : Type} (held : List α) (new : Option α) :
    (∀ one ∈ held ++ new.toList, ∀ other ∈ held ++ new.toList, one = other) ↔
      (∀ one ∈ held, ∀ other ∈ held, one = other) ∧
        ∀ kept asked, held.head? = some kept → new = some asked → asked = kept := by
  constructor
  · intro alike
    constructor
    · intro one first other second
      exact alike one (List.mem_append_left _ first) other (List.mem_append_left _ second)
    · intro kept asked first second
      have present : kept ∈ held := List.mem_of_mem_head? first
      exact alike asked (List.mem_append_right _ (by simp [second])) kept (List.mem_append_left _ present)
  · rintro ⟨alike, agrees⟩
    have added : ∀ one ∈ held, ∀ asked ∈ new.toList, asked = one := by
      intro one present asked last
      obtain ⟨kept, first⟩ := Option.isSome_iff_exists.mp (List.isSome_head?.mpr (List.ne_nil_of_mem present))
      have same := agrees kept asked first (Option.mem_toList.mp last)
      exact same.trans (alike kept (List.mem_of_mem_head? first) one present)
    intro one first other second
    rcases List.mem_append.mp first with old | last
    · rcases List.mem_append.mp second with also | new
      · exact alike one old other also
      · exact (added one old other new).symm
    · rcases List.mem_append.mp second with old | also
      · exact added other old one last
      · exact Option.some.inj ((Option.mem_toList.mp last).symm.trans (Option.mem_toList.mp also))

theorem form_systems (form : ClosedForm template traits result) : result.os = (template.systems traits).head? := by
  rw [form.os, systems, List.head?_append]
  cases template.os with
  | none => rfl
  | some os => rfl

theorem form_architectures (form : ClosedForm template traits result) :
    result.arch = (template.architectures traits).head? := by
  rw [form.arch, architectures, List.head?_append]
  cases template.arch with
  | none => rfl
  | some arch => rfl

theorem no_clash {α : Type} {word : α → String} {held new : Option α} (template : JobTemplate) (trait : Trait)
    (field : SingularField) (distinct : Function.Injective word) (first : template.value? field = held.map word)
    (second : trait.value? field = new.map word) :
    (∀ one other, ¬Clash template trait field one other) ↔
      ∀ kept asked, held = some kept → new = some asked → field.shared ∧ asked = kept := by
  simp only [clash_values distinct first second]
  constructor
  · intro free kept asked kind other
    apply Classical.byContradiction
    intro apart
    exact free _ _ ⟨kept, asked, kind, other, apart, rfl, rfl⟩
  · rintro agreed _ _ ⟨kept, asked, kind, other, apart, _⟩
    exact apart (agreed kept asked kind other)

theorem filterMap_one {α β : Type} (read : α → Option β) (item : α) : [item].filterMap read = (read item).toList := by
  cases told : read item with
  | none => rw [List.filterMap_cons_none told]; rfl
  | some value => rw [List.filterMap_cons_some told]; rfl

theorem systems_append (template : JobTemplate) (before after : List Trait) :
    template.systems (before ++ after) = template.systems before ++ after.filterMap Trait.os := by
  rw [systems, List.filterMap_append, ← List.append_assoc]
  rfl

theorem architectures_append (template : JobTemplate) (before after : List Trait) :
    template.architectures (before ++ after) = template.architectures before ++ after.filterMap Trait.arch := by
  rw [architectures, List.filterMap_append, ← List.append_assoc]
  rfl

theorem oneSystem_concat (form : ClosedForm template before middle) : template.OneSystem (before ++ [trait]) ↔
    template.OneSystem before ∧ ∀ one other, ¬Clash middle trait .os one other := by
  have free := no_clash middle trait .os Os.word_injective rfl rfl
  rw [OneSystem, systems_append, filterMap_one, single_concat, free, form_systems form]
  simp [OneSystem, SingularField.shared]

theorem oneArchitecture_concat (form : ClosedForm template before middle) :
    template.OneArchitecture (before ++ [trait]) ↔
      template.OneArchitecture before ∧ ∀ one other, ¬Clash middle trait .arch one other := by
  have free := no_clash middle trait .arch Function.injective_id (arch_held middle) (arch_asked trait)
  rw [OneArchitecture, architectures_append, filterMap_one, alike_concat, free, form_architectures form]
  simp [OneArchitecture, SingularField.shared]

theorem composable_concat (form : ClosedForm template before middle) : template.Composable (before ++ [trait]) ↔
    template.Composable before ∧ ∃ result, middle.merge trait = .ok result := by
  rw [Composable, oneSystem_concat form, oneArchitecture_concat form, merge_fits]
  constructor
  · rintro ⟨⟨system, os⟩, architecture, arch⟩
    refine ⟨⟨system, architecture⟩, ?_⟩
    intro field
    cases field with
    | os => exact os
    | arch => exact arch
  · rintro ⟨⟨system, architecture⟩, free⟩
    exact ⟨⟨system, free .os⟩, architecture, free .arch⟩

theorem composable_before {after : List Trait} (fits : template.Composable (before ++ after)) :
    template.Composable before := by
  obtain ⟨system, architecture⟩ := fits
  rw [OneSystem, systems_append, List.length_append] at system
  rw [OneArchitecture, architectures_append] at architecture
  refine ⟨Nat.le_of_add_right_le system, ?_⟩
  intro one first other second
  exact architecture one (List.mem_append_left _ first) other (List.mem_append_left _ second)

theorem composable_nil (template : JobTemplate) : template.Composable [] := by
  constructor
  · unfold OneSystem systems
    cases template.os with
    | none => exact Nat.zero_le 1
    | some os => exact Nat.le_refl 1
  · unfold OneArchitecture architectures
    cases template.arch with
    | none => simp
    | some arch => simp

theorem extend_fits : (∃ result, template.extend traits = .ok result) ↔ template.Composable traits := by
  -- From the end: the last trait meets the closed form of all before it.
  induction traits using List.reverseRecOn with
  | nil => exact ⟨fun _ => composable_nil template, fun _ => ⟨template, rfl⟩⟩
  | append_singleton before trait ih =>
      have concat : template.extend (before ++ [trait]) = template.extend before >>= fun held => held.merge trait := by
        simp [extend]
      rw [concat]
      constructor
      · rintro ⟨result, extended⟩
        obtain ⟨middle, reached, merged⟩ := bind_ok.mp extended
        exact (composable_concat (extend_form reached)).mpr ⟨ih.mp ⟨middle, reached⟩, result, merged⟩
      · intro fits
        obtain ⟨middle, reached⟩ := ih.mpr (composable_before fits)
        obtain ⟨_, result, merged⟩ := (composable_concat (extend_form reached)).mp fits
        exact ⟨result, bind_ok.mpr ⟨middle, reached, merged⟩⟩

theorem merge_stops (reached : template.extend before = .ok middle) : middle.merge trait = .error failure ↔
    ∃ field held new, StopsAt template before trait field held new ∧
      failure = .conflict field held new (template.traits ++ (before ++ [trait]).map Trait.title) := by
  have form := extend_form reached
  have fitted := extend_fits.mp ⟨middle, reached⟩
  have labels : middle.traits ++ [trait.title] = template.traits ++ (before ++ [trait]).map Trait.title := by
    simp [form.labels]
  rw [merge_error, labels]
  constructor
  · rintro ⟨field, held, new, clash, earlier, rfl⟩
    refine ⟨field, held, new, ⟨fitted, ?_, ?_, ?_, clash.second, middle, reached, ?_⟩, rfl⟩
    · intro fits
      exact merge_fits.mp ((composable_concat form).mp fits).2 field held new clash
    · cases field with
      | os => simpa using fun system => ((oneSystem_concat form).mp system).2 held new clash
      | arch => simpa using (oneSystem_concat form).mpr ⟨fitted.1, earlier rfl⟩
    · rw [← form_claim form]
      exact clash.first
    · obtain ⟨value, told, rfl⟩ := Option.map_eq_some_iff.mp clash.first
      exact told
  · rintro ⟨field, held, new, stops, rfl⟩
    -- A field makes one claim on each side, so any clash over it is this one.
    have told : ∀ one other, Clash middle trait field one other → Clash middle trait field held new := by
      intro one other clash
      have first := (form_claim form field).symm.trans clash.first
      rw [stops.first] at first
      have second := stops.second.symm.trans clash.second
      cases first
      cases second
      exact clash
    have system : template.OneSystem (before ++ [trait]) ↔ _ := oneSystem_concat form
    cases field with
    | os =>
        have broken := stops.which.mp rfl
        rw [system] at broken
        have clashing : ∃ one other, Clash middle trait .os one other := by
          simpa [fitted.1] using broken
        obtain ⟨one, other, clash⟩ := clashing
        exact ⟨.os, held, new, told one other clash, by simp, rfl⟩
    | arch =>
        have single : template.OneSystem (before ++ [trait]) := by simpa using stops.which
        have free := (system.mp single).2
        have broken : ¬template.OneArchitecture (before ++ [trait]) := fun alike => stops.unfit ⟨single, alike⟩
        rw [oneArchitecture_concat form] at broken
        have clashing : ∃ one other, Clash middle trait .arch one other := by
          simpa [fitted.2] using broken
        obtain ⟨one, other, clash⟩ := clashing
        exact ⟨.arch, held, new, told one other clash, fun _ => free, rfl⟩

theorem extend_stops : template.extend traits = .error failure ↔ ∃ before trait after field held new,
    traits = before ++ trait :: after ∧ StopsAt template before trait field held new ∧
      failure = .conflict field held new (template.traits ++ (before ++ [trait]).map Trait.title) := by
  unfold extend
  rw [foldlM_error]
  constructor
  · rintro ⟨before, trait, after, middle, split, reached, refused⟩
    obtain ⟨field, held, new, stops, told⟩ := (merge_stops reached).mp refused
    exact ⟨before, trait, after, field, held, new, split, stops, told⟩
  · rintro ⟨before, trait, after, field, held, new, split, stops, told⟩
    obtain ⟨middle, reached, _⟩ := stops.inForce
    exact ⟨before, trait, after, middle, split, reached, (merge_stops reached).mpr ⟨field, held, new, stops, told⟩⟩

-- Composing is refused for nothing but a second system or a different
-- architecture, at the first trait that brings one, and the report names the two
-- that clash.
theorem extend_exact (template : JobTemplate) (traits : List Trait) :
    ((∃ result, template.extend traits = .ok result) ↔ template.Composable traits) ∧
    (∀ failure, template.extend traits = .error failure ↔ ∃ before trait after field held new,
      traits = before ++ trait :: after ∧ StopsAt template before trait field held new ∧
      failure = .conflict field held new (template.traits ++ (before ++ [trait]).map Trait.title) ∧
      failure.report.kind = .compositionConflict ∧
      failure.report.details = [
        ("field", field.word),
        ("first", held.owner ++ "=" ++ held.value),
        ("second", new.owner ++ "=" ++ new.value),
        ("composed", "+".intercalate (template.traits ++ (before ++ [trait]).map Trait.title))]) ∧
    compose traits = empty.extend traits := by
  refine ⟨extend_fits, ?_, rfl⟩
  intro failure
  rw [extend_stops]
  constructor
  · rintro ⟨before, trait, after, field, held, new, split, stops, rfl⟩
    exact ⟨before, trait, after, field, held, new, split, stops, rfl, rfl, rfl⟩
  · rintro ⟨before, trait, after, field, held, new, split, stops, told, _⟩
    exact ⟨before, trait, after, field, held, new, split, stops, told⟩

end JobTemplate
end BuildMatrix
