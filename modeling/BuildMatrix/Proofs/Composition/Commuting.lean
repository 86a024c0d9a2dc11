import BuildMatrix.Proofs.Composition.Conflicts

namespace BuildMatrix

section
variable {α β : Type} {before after items others : List α} {one other : α}

theorem swap_perm (before after : List α) (one other : α) :
    (before ++ [one, other] ++ after).Perm (before ++ [other, one] ++ after) :=
  ((List.Perm.swap other one []).append_left before).append_right after

theorem filterMap_swap {read : α → Option β} (silent : read one = none ∨ read other = none) :
    (before ++ [one, other] ++ after).filterMap read = (before ++ [other, one] ++ after).filterMap read := by
  have pair : [one, other].filterMap read = [other, one].filterMap read := by
    rcases silent with quiet | quiet
    · simp [List.filterMap_cons, quiet]
    · simp [List.filterMap_cons, quiet]
  simp only [List.filterMap_append, pair]

theorem lastSet_swap {read : α → Option β} (silent : read one = none ∨ read other = none) :
    lastSet read (before ++ [one, other] ++ after) = lastSet read (before ++ [other, one] ++ after) := by
  unfold lastSet
  rw [filterMap_swap silent]

theorem flatMap_swap {read : α → List β} (silent : read one = [] ∨ read other = []) :
    (before ++ [one, other] ++ after).flatMap read = (before ++ [other, one] ++ after).flatMap read := by
  have pair : read one ++ read other = read other ++ read one := by
    rcases silent with quiet | quiet
    · rw [quiet, List.nil_append, List.append_nil]
    · rw [quiet, List.nil_append, List.append_nil]
  simp only [List.flatMap_append, List.flatMap_cons, List.flatMap_nil, List.append_nil, pair]

theorem join_swap {read : α → String} (silent : read one = "" ∨ read other = "") :
    String.join ((before ++ [one, other] ++ after).map read) =
      String.join ((before ++ [other, one] ++ after).map read) := by
  apply String.toList_inj.mp
  rw [String.toList_join, String.toList_join, List.flatMap_map, List.flatMap_map]
  apply flatMap_swap
  rcases silent with quiet | quiet
  · exact .inl (by rw [quiet]; rfl)
  · exact .inr (by rw [quiet]; rfl)

theorem head_perm (same : items.Perm others) (alike : ∀ one ∈ items, ∀ other ∈ items, one = other) :
    items.head? = others.head? := by
  cases items with
  | nil => rw [same.nil_eq]
  | cons first rest =>
      cases others with
      | nil => cases same.eq_nil
      | cons next more =>
          have held : next ∈ first :: rest := same.mem_iff.mpr List.mem_cons_self
          exact congrArg some (alike first List.mem_cons_self next held)

end

-- Traits of which at most one speaks on anything that the order of traits decides.
-- Both may set an architecture, or even a system: composing them is then refused in
-- either order.
structure Trait.Independent (one other : Trait) : Prop where
  name : one.name = "" ∨ other.name = ""
  setup : one.setup = [] ∨ other.setup = []
  run : one.run = [] ∨ other.run = []
  environment : one.environment.SharesNoKey other.environment
  downloads : one.downloads.SharesNoKey other.downloads
  packages : one.packages.SharesNoKey other.packages
  docker : one.docker = none ∨ other.docker = none
  pythonVersion : one.pythonVersion = none ∨ other.pythonVersion = none
  path : one.path = none ∨ other.path = none
  exe : one.exe = none ∨ other.exe = none
  jdkHome : one.jdkHome = none ∨ other.jdkHome = none
  copyDir : one.copyDir = none ∨ other.copyDir = none

namespace JobTemplate

-- Templates that differ in nothing but the order of keys and capabilities, and in the
-- labels and owners that they remember.
structure Interchangeable (one other : JobTemplate) : Prop where
  name : one.name = other.name
  os : one.os = other.os
  arch : one.arch = other.arch
  docker : one.docker = other.docker
  pythonVersion : one.pythonVersion = other.pythonVersion
  path : one.path = other.path
  exe : one.exe = other.exe
  jdkHome : one.jdkHome = other.jdkHome
  copyDir : one.copyDir = other.copyDir
  setup : one.setup = other.setup
  run : one.run = other.run
  environment : one.environment.SameEntries other.environment
  downloads : one.downloads.SameEntries other.downloads
  packages : one.packages.SameEntries other.packages
  capabilities : one.capabilities.Perm other.capabilities

variable {template result swapped : JobTemplate} {traits others before after : List Trait} {one other : Trait}

theorem systems_perm (template : JobTemplate) (same : traits.Perm others) :
    (template.systems traits).Perm (template.systems others) := (same.filterMap Trait.os).append_left _

theorem architectures_perm (template : JobTemplate) (same : traits.Perm others) :
    (template.architectures traits).Perm (template.architectures others) := (same.filterMap Trait.arch).append_left _

theorem composable_perm (same : traits.Perm others) : template.Composable traits ↔ template.Composable others := by
  have listed : ∀ arch, arch ∈ template.architectures traits ↔ arch ∈ template.architectures others :=
    fun _ => (architectures_perm template same).mem_iff
  unfold Composable OneSystem OneArchitecture
  simp only [(systems_perm template same).length_eq, listed]

theorem oneSystem_alike (single : template.OneSystem traits) :
    ∀ one ∈ template.systems traits, ∀ other ∈ template.systems traits, one = other := by
  intro one first other second
  obtain ⟨place, _, rfl⟩ := List.getElem_of_mem first
  obtain ⟨also, _, rfl⟩ := List.getElem_of_mem second
  unfold OneSystem at single
  have same : place = also := by omega
  simp only [same]

theorem machine_perm (same : traits.Perm others) (first : template.extend traits = .ok result)
    (second : template.extend others = .ok swapped) : result.os = swapped.os ∧ result.arch = swapped.arch := by
  obtain ⟨system, architecture⟩ := extend_fits.mp ⟨result, first⟩
  have one := extend_form first
  have other := extend_form second
  rw [form_systems one, form_systems other, form_architectures one, form_architectures other]
  exact ⟨head_perm (systems_perm template same) (oneSystem_alike system),
    head_perm (architectures_perm template same) architecture⟩

theorem capabilities_perm (same : traits.Perm others) (first : ClosedForm template traits result)
    (second : ClosedForm template others swapped) : result.capabilities.Perm swapped.capabilities := by
  have empty : traits = [] ↔ others = [] := by rw [← List.length_eq_zero_iff, same.length_eq, List.length_eq_zero_iff]
  rw [first.capabilities, second.capabilities]
  simp only [empty]
  split
  · exact List.Perm.refl _
  · exact eraseDups_perm ((same.flatMap_right Trait.capabilities).append_left template.capabilities)

theorem overlaid_swap {α : Type} {read : Trait → Mapping α} {base first second : Mapping α}
    (apart : (read one).SharesNoKey (read other))
    (here : Overlaid base ((before ++ [one, other] ++ after).map read) first)
    (there : Overlaid base ((before ++ [other, one] ++ after).map read) second) : first.SameEntries second := by
  intro key
  have silent := Mapping.sharesNoKey_silent apart key
  rw [here.value, there.value]
  simp only [List.map_append, List.map_cons, List.map_nil]
  rw [lastSet_swap silent]

theorem extend_swap (independent : one.Independent other)
    (first : template.extend (before ++ [one, other] ++ after) = .ok result)
    (second : template.extend (before ++ [other, one] ++ after) = .ok swapped) : result.Interchangeable swapped := by
  have same := swap_perm before after one other
  have machine := machine_perm same first second
  have here := extend_form first
  have there := extend_form second
  constructor
  case os => exact machine.1
  case arch => exact machine.2
  case capabilities => exact capabilities_perm same here there
  case environment => exact overlaid_swap independent.environment here.environment there.environment
  case downloads => exact overlaid_swap independent.downloads here.downloads there.downloads
  case packages => exact overlaid_swap independent.packages here.packages there.packages
  case name => rw [here.name, there.name, join_swap independent.name]
  case setup => rw [here.setup, there.setup, flatMap_swap independent.setup]
  case run => rw [here.run, there.run, flatMap_swap independent.run]
  case docker => rw [here.docker, there.docker, lastSet_swap independent.docker]
  case pythonVersion => rw [here.pythonVersion, there.pythonVersion, lastSet_swap independent.pythonVersion]
  case path => rw [here.path, there.path, lastSet_swap independent.path]
  case exe => rw [here.exe, there.exe, lastSet_swap independent.exe]
  case jdkHome => rw [here.jdkHome, there.jdkHome, lastSet_swap independent.jdkHome]
  case copyDir => rw [here.copyDir, there.copyDir, lastSet_swap independent.copyDir]

-- Independent neighbours can change places, whatever is composed before and after them.
theorem compose_swap (before after : List Trait) (one other : Trait) (independent : one.Independent other) :
    ((∃ result, compose (before ++ [one, other] ++ after) = .ok result) ↔
      ∃ swapped, compose (before ++ [other, one] ++ after) = .ok swapped) ∧
    ∀ result swapped, compose (before ++ [one, other] ++ after) = .ok result →
      compose (before ++ [other, one] ++ after) = .ok swapped → result.Interchangeable swapped := by
  constructor
  · unfold compose
    rw [extend_fits, extend_fits]
    exact composable_perm (swap_perm before after one other)
  · intro result swapped first second
    exact extend_swap independent first second

-- Two traits that name the same architecture, one of which is overridden later on.
def shelter : List Trait := [{ name := "-linux", os := some .linux, capabilities := ["linux"] }]

def tooling : Trait :=
  { label := "tooling", name := "-tools", arch := some "amd64", capabilities := ["disk", "tools"],
    environment := .ofList [("MODE", "fast")], run := [["mx", "build"]] }

def locale : Trait :=
  { label := "locale", arch := some "amd64", capabilities := ["tools", "network"], pythonVersion := some "3",
    environment := .ofList [("LANG", "C")], path := some Platform.windowsPath }

def override : List Trait := [{ environment := .ofList [("MODE", "slow")] }]

theorem locale_independent : tooling.Independent locale := by
  constructor
  case environment | downloads | packages =>
    unfold Mapping.SharesNoKey
    decide
  case name => exact .inr rfl
  case setup => exact .inl rfl
  case run => exact .inr rfl
  all_goals exact .inl rfl

theorem locale_swapped : tooling.Independent locale ∧
    ∃ result swapped, compose (shelter ++ [tooling, locale] ++ override) = .ok result ∧
      compose (shelter ++ [locale, tooling] ++ override) = .ok swapped ∧ result.Interchangeable swapped ∧
      result.capabilities ≠ swapped.capabilities := by
  obtain ⟨fits, agree⟩ := compose_swap shelter override tooling locale locale_independent
  have succeeds : (compose (shelter ++ [tooling, locale] ++ override)).isOk = true := rfl
  obtain ⟨result, first⟩ := isOk_value succeeds
  obtain ⟨swapped, second⟩ := fits.mp ⟨result, first⟩
  refine ⟨locale_independent, result, swapped, first, second, agree result swapped first second, ?_⟩
  have told : (compose (shelter ++ [tooling, locale] ++ override)).map JobTemplate.capabilities =
      .ok ["linux", "disk", "tools", "network"] := rfl
  have also : (compose (shelter ++ [locale, tooling] ++ override)).map JobTemplate.capabilities =
      .ok ["linux", "tools", "network", "disk"] := rfl
  rw [first] at told
  rw [second] at also
  rw [Except.ok.inj told, Except.ok.inj also]
  decide

end JobTemplate
end BuildMatrix
