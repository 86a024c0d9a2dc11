import BuildMatrix.Proofs.Mapping
import BuildMatrix.Proofs.Outcomes
import BuildMatrix.Template.Compose

namespace BuildMatrix

section
variable {α β : Type} {read : α → Option β} {item : α} {items : List α}

def firstSet (read : α → Option β) (items : List α) : Option β := (items.filterMap read).head?
def lastSet (read : α → Option β) (items : List α) : Option β := (items.filterMap read).getLast?

theorem firstSet_cons : firstSet read (item :: items) = (read item).or (firstSet read items) := by
  unfold firstSet
  cases set : read item with
  | none => rw [List.filterMap_cons_none set, Option.none_or]
  | some value => rw [List.filterMap_cons_some set, List.head?_cons, Option.some_or]

theorem lastSet_cons : lastSet read (item :: items) = (lastSet read items).or (read item) := by
  unfold lastSet
  cases set : read item with
  | none => rw [List.filterMap_cons_none set, Option.or_none]
  | some value => rw [List.filterMap_cons_some set, List.getLast?_cons, Option.or_some]

theorem lastSet_none (silent : ∀ item ∈ items, read item = none) : lastSet read items = none := by
  rw [lastSet, List.filterMap_eq_nil_iff.mpr silent]
  rfl

theorem lastSet_getD {fits : β → Prop} {other : β} (otherwise : fits other)
    (each : ∀ item ∈ items, ∀ value, read item = some value → fits value) :
    fits ((lastSet read items).getD other) := by
  cases found : lastSet read items with
  | none => exact otherwise
  | some value =>
      obtain ⟨item, present, set⟩ := List.mem_filterMap.mp (List.mem_of_getLast? found)
      exact each item present value set

end

-- Mappings laid over a first one: the last to hold a key gives its value, and
-- the keys stand as they first came up.
structure Overlaid {α : Type} (base : Mapping α) (tops : List (Mapping α)) (result : Mapping α) : Prop where
  keys : result.keys = (base.keys ++ tops.flatMap Mapping.keys).eraseDups
  value : ∀ key, result.get? key = (lastSet (fun top => top.get? key) tops).or (base.get? key)

section
variable {α : Type} {base top result : Mapping α} {tops : List (Mapping α)}

theorem overlaid_nil : Overlaid base [] base where
  keys := by simp [eraseDups_distinct base.keys_distinct]
  value _ := rfl

theorem overlaid_cons (overlaid : Overlaid (base.overlay top) tops result) : Overlaid base (top :: tops) result where
  keys := by
    rw [overlaid.keys, Mapping.keys_overlay, eraseDups_again, List.append_assoc]
    rfl
  value key := by
    rw [overlaid.value, Mapping.get?_overlay, lastSet_cons, Option.or_assoc]

theorem overlaid_unique {other : Mapping α} (one : Overlaid base tops result) (also : Overlaid base tops other) :
    result = other :=
  Mapping.eq_of_keys (one.keys.trans also.keys.symm) fun key => (one.value key).trans (also.value key).symm

theorem overlaid_untouched (overlaid : Overlaid base tops result) {key : String}
    (free : ∀ top ∈ tops, top.get? key = none) : result.get? key = base.get? key := by
  rw [overlaid.value, lastSet_none free, Option.none_or]

end

def Trait.value? (trait : Trait) : SingularField → Option String
  | .os => trait.os.map Os.word
  | .arch => trait.arch

def Trait.claim? (trait : Trait) (field : SingularField) : Option Claim :=
  (trait.value? field).map fun value => ⟨trait.title, value⟩

namespace JobTemplate

def value? (template : JobTemplate) : SingularField → Option String
  | .os => template.os.map Os.word
  | .arch => template.arch

def newOwner (template : JobTemplate) (traits : List Trait) (field : SingularField) : Option String :=
  match template.value? field with
  | some _ => none
  | none => (firstSet (fun trait => trait.claim? field) traits).map Claim.owner

-- A template with traits on top of it, field by field over the whole list.
structure ClosedForm (template : JobTemplate) (traits : List Trait) (result : JobTemplate) : Prop where
  labels : result.traits = template.traits ++ traits.map Trait.title
  name : result.name = template.name ++ String.join (traits.map Trait.name)
  setup : result.setup = template.setup ++ traits.flatMap Trait.setup
  run : result.run = template.run ++ traits.flatMap Trait.run
  capabilities : result.capabilities =
    if traits = [] then template.capabilities
    else (template.capabilities ++ traits.flatMap Trait.capabilities).eraseDups
  environment : Overlaid template.environment (traits.map Trait.environment) result.environment
  downloads : Overlaid template.downloads (traits.map Trait.downloads) result.downloads
  packages : Overlaid template.packages (traits.map Trait.packages) result.packages
  docker : result.docker = (lastSet Trait.docker traits).or template.docker
  pythonVersion : result.pythonVersion = (lastSet Trait.pythonVersion traits).or template.pythonVersion
  path : result.path = (lastSet Trait.path traits).getD template.path
  exe : result.exe = (lastSet Trait.exe traits).getD template.exe
  jdkHome : result.jdkHome = (lastSet Trait.jdkHome traits).getD template.jdkHome
  copyDir : result.copyDir = (lastSet Trait.copyDir traits).getD template.copyDir
  os : result.os = template.os.or (firstSet Trait.os traits)
  arch : result.arch = template.arch.or (firstSet Trait.arch traits)
  owners : ∀ field : SingularField, result.owners.get? field.word =
    (template.newOwner traits field).or (template.owners.get? field.word)
  others : ∀ key, (∀ field : SingularField, key ≠ field.word) → result.owners.get? key = template.owners.get? key

variable {template middle result : JobTemplate} {trait : Trait} {traits : List Trait}

theorem closedForm_nil : ClosedForm template [] template := by
  constructor
  case environment | downloads | packages => exact overlaid_nil
  case owners =>
    intro field
    unfold newOwner
    cases template.value? field with
    | none => rfl
    | some value => rfl
  all_goals simp [firstSet, lastSet]

theorem settleField_silent {α : Type} [DecidableEq α] {field : SingularField} {word : α → String}
    {held : Option α} {noted : Mapping String} :
    template.settleField trait field word held none noted = .ok (held, noted) := by
  unfold settleField settle
  cases held with
  | none => rfl
  | some kept => rfl

theorem settleField_open {α : Type} [DecidableEq α] {field : SingularField} {word : α → String}
    {new : α} {noted : Mapping String} :
    template.settleField trait field word none (some new) noted =
      .ok (some new, noted.insert field.word trait.title) := rfl

theorem settleField_held {α : Type} [DecidableEq α] {field : SingularField} {word : α → String}
    {kept new : α} {noted : Mapping String} :
    template.settleField trait field word (some kept) (some new) noted =
      if field.shared ∧ new = kept then .ok (some kept, noted)
      else .error (.conflict field ⟨template.owner field, word kept⟩ ⟨trait.title, word new⟩
        (template.traits ++ [trait.title])) := by
  unfold settleField settle
  by_cases agreed : field.shared ∧ new = kept
  · simp [agreed]
  · simp only [agreed, if_false]

theorem settleField_ok {α : Type} [DecidableEq α] {field : SingularField} {word : α → String}
    {held new value : Option α} {noted owners : Mapping String}
    (settled : template.settleField trait field word held new noted = .ok (value, owners)) :
    value = held.or new ∧ ∀ key, owners.get? key =
      if key = field.word ∧ held = none ∧ new.isSome then some trait.title else noted.get? key := by
  cases new with
  | none =>
      rw [settleField_silent] at settled
      cases settled
      exact ⟨by simp, by simp⟩
  | some new =>
      cases held with
      | none =>
          rw [settleField_open] at settled
          cases settled
          exact ⟨rfl, by simp [Mapping.get?_insert]⟩
      | some kept =>
          rw [settleField_held] at settled
          split at settled
          · cases settled
            exact ⟨rfl, by simp⟩
          · cases settled

theorem newOwner_one (field : SingularField) : template.newOwner [trait] field =
    if template.value? field = none ∧ (trait.value? field).isSome then some trait.title else none := by
  unfold newOwner
  cases template.value? field with
  | some kept => simp
  | none =>
      cases new : trait.value? field with
      | none => simp [firstSet, Trait.claim?, new]
      | some word => simp [firstSet, Trait.claim?, new]

theorem merge_ok (merged : template.merge trait = .ok result) : ∃ owners : Mapping String,
    (∀ field : SingularField, owners.get? field.word =
      (template.newOwner [trait] field).or (template.owners.get? field.word)) ∧
    (∀ key, (∀ field : SingularField, key ≠ field.word) → owners.get? key = template.owners.get? key) ∧
    result = {
      traits := template.traits ++ [trait.title]
      name := template.name ++ trait.name
      capabilities := (template.capabilities ++ trait.capabilities).eraseDups
      environment := template.environment.overlay trait.environment
      downloads := template.downloads.overlay trait.downloads
      packages := template.packages.overlay trait.packages
      setup := template.setup ++ trait.setup
      run := template.run ++ trait.run
      os := template.os.or trait.os
      arch := template.arch.or trait.arch
      docker := trait.docker.or template.docker
      pythonVersion := trait.pythonVersion.or template.pythonVersion
      path := trait.path.getD template.path
      exe := trait.exe.getD template.exe
      jdkHome := trait.jdkHome.getD template.jdkHome
      copyDir := trait.copyDir.getD template.copyDir
      owners := owners } := by
  obtain ⟨⟨os, noted⟩, first, merged⟩ := bind_ok.mp merged
  obtain ⟨⟨arch, owners⟩, second, merged⟩ := bind_ok.mp merged
  obtain ⟨rfl, early⟩ := settleField_ok first
  obtain ⟨rfl, late⟩ := settleField_ok second
  cases merged
  refine ⟨owners, ?_, ?_, rfl⟩
  · intro field
    rw [late, early, newOwner_one]
    cases field with
    | os =>
        simp only [SingularField.word, value?, Trait.value?, Option.map_eq_none_iff, Option.isSome_map]
        by_cases taken : template.os = none ∧ trait.os.isSome
        · simp [taken]
        · simp [taken]
    | arch =>
        simp only [SingularField.word, value?, Trait.value?]
        by_cases taken : template.arch = none ∧ trait.arch.isSome
        · simp [taken]
        · simp [taken]
  · intro key other
    rw [late, early]
    simp [other]

theorem merge_value (merged : template.merge trait = .ok result) (field : SingularField) :
    result.value? field = (template.value? field).or (trait.value? field) := by
  obtain ⟨owners, _, _, rfl⟩ := merge_ok merged
  cases field with
  | os => simp [value?, Trait.value?, Option.map_or]
  | arch => rfl

theorem newOwner_cons (field : SingularField)
    (value : middle.value? field = (template.value? field).or (trait.value? field)) :
    template.newOwner (trait :: traits) field =
      (middle.newOwner traits field).or (template.newOwner [trait] field) := by
  unfold newOwner
  rw [value]
  cases template.value? field with
  | some kept => rfl
  | none =>
      cases new : trait.value? field with
      | none => simp [firstSet, Trait.claim?, new]
      | some word => simp [firstSet, Trait.claim?, new]

theorem closedForm_cons (merged : template.merge trait = .ok middle) (form : ClosedForm middle traits result) :
    ClosedForm template (trait :: traits) result := by
  have value := merge_value merged
  obtain ⟨owners, noted, kept, equal⟩ := merge_ok merged
  constructor
  case owners =>
    intro field
    rw [form.owners, newOwner_cons field (value field), Option.or_assoc]
    subst equal
    rw [noted]
  case others =>
    intro key other
    rw [form.others key other]
    subst equal
    exact kept key other
  all_goals subst equal
  case labels => rw [form.labels, List.map_cons, List.append_assoc]; rfl
  case name => rw [form.name]; simp [String.append_assoc]
  case setup => rw [form.setup, List.flatMap_cons, List.append_assoc]
  case run => rw [form.run, List.flatMap_cons, List.append_assoc]
  case capabilities =>
    rw [form.capabilities, if_neg (List.cons_ne_nil _ _), List.flatMap_cons]
    cases traits with
    | nil => simp
    | cons next rest =>
        rw [if_neg (List.cons_ne_nil _ _), eraseDups_again, List.append_assoc]
  case environment => exact overlaid_cons form.environment
  case downloads => exact overlaid_cons form.downloads
  case packages => exact overlaid_cons form.packages
  case docker => rw [form.docker, lastSet_cons, Option.or_assoc]
  case pythonVersion => rw [form.pythonVersion, lastSet_cons, Option.or_assoc]
  case path => rw [form.path, lastSet_cons, Option.getD_or]
  case exe => rw [form.exe, lastSet_cons, Option.getD_or]
  case jdkHome => rw [form.jdkHome, lastSet_cons, Option.getD_or]
  case copyDir => rw [form.copyDir, lastSet_cons, Option.getD_or]
  case os => rw [form.os, firstSet_cons, Option.or_assoc]
  case arch => rw [form.arch, firstSet_cons, Option.or_assoc]

theorem extend_form (extended : template.extend traits = .ok result) : ClosedForm template traits result := by
  unfold extend at extended
  induction traits generalizing template with
  | nil =>
      cases extended
      exact closedForm_nil
  | cons trait rest ih =>
      rw [List.foldlM_cons] at extended
      obtain ⟨middle, merged, others⟩ := bind_ok.mp extended
      exact closedForm_cons merged (ih others)

-- However traits are put on a template one after the other, the result can be
-- told for each field from the whole list at once.
theorem extend_closed (template : JobTemplate) (traits : List Trait) :
    (∀ result, template.extend traits = .ok result → ClosedForm template traits result) ∧
    ∀ result, compose traits = .ok result → ClosedForm empty traits result :=
  ⟨fun _ extended => extend_form extended, fun _ composed => extend_form composed⟩

-- A template with an architecture and an owner of its own, and traits that
-- repeat its keys and agree with it.
def ground : JobTemplate where
  name := "ground"
  capabilities := ["tools", "tools"]
  environment := .ofList [("HOME", "here")]
  arch := some "amd64"
  owners := .ofList [("os", "nobody")]

def layers : List Trait := [
  { label := "one", name := "-one", os := some .linux, capabilities := ["disk", "tools"],
    environment := .ofList [("MODE", "fast"), ("HOME", "there")] },
  { name := "-two", arch := some "amd64", pythonVersion := some "3",
    environment := .ofList [("MODE", "slow")] }]

theorem layers_closed : ∃ result, ground.extend layers = .ok result ∧ ClosedForm ground layers result ∧
    result.name = "ground-one-two" ∧ result.capabilities = ["tools", "disk"] ∧
    result.environment.rows = [("HOME", "there"), ("MODE", "slow")] ∧
    result.owners.rows = [("os", "one")] := by
  have succeeds : (ground.extend layers).isOk = true := rfl
  obtain ⟨result, extended⟩ := isOk_value succeeds
  have told : (ground.extend layers).map (fun result =>
      (result.name, result.capabilities, result.environment.rows, result.owners.rows)) =
      .ok ("ground-one-two", ["tools", "disk"], [("HOME", "there"), ("MODE", "slow")], [("os", "one")]) := rfl
  rw [extended] at told
  obtain ⟨name, capabilities, environment, owners⟩ := by
    simpa only [Except.map, Except.ok.injEq, Prod.mk.injEq] using told
  exact ⟨result, extended, (extend_closed ground layers).1 result extended, name, capabilities, environment, owners⟩

end JobTemplate
end BuildMatrix
