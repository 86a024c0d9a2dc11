import BuildMatrix.Proofs.Building.Acceptance
import BuildMatrix.Proofs.Building.Defined
import BuildMatrix.Proofs.Generation.Machines

namespace BuildMatrix.Builder

-- A job takes over what its composed template says. Steps are added behind those of
-- the template, and nothing else is touched.
structure Carries (composed : JobTemplate) (job : Job) : Prop where
  run : composed.run.map Command.toValue <+: job.run
  setup : job.setup = composed.setup.map Command.toValue
  capabilities : job.capabilities = composed.capabilities
  environment : job.environment = composed.environment
  downloads : job.downloads = composed.downloads
  packages : job.packages = composed.packages
  docker : job.docker = composed.docker
  pythonVersion : job.pythonVersion = composed.pythonVersion

-- What every job keeps of the template, given the traits of the registry that its kind
-- brings along.
structure Keeps (template : JobTemplate) (mixins : List Trait) (job : Job) : Prop where
  os : template.os = some job.os
  arch : template.arch = some job.arch
  run : template.run.map Command.toValue <+: job.run
  setup : template.setup.map Command.toValue <+: job.setup
  capabilities : job.capabilities = (template.capabilities ++ mixins.flatMap Trait.capabilities).eraseDups

structure KeepsAll (template : JobTemplate) (job : Job) : Prop where
  environment : job.environment = template.environment.insert "LABSJDK_HOME"
    (template.path (Steps.envRef "PWD" ++ "/jdk/release-java-home"))
  downloads : job.downloads = template.downloads
  packages : job.packages = template.packages
  docker : job.docker = template.docker
  pythonVersion : job.pythonVersion = template.pythonVersion

-- A job that builds the JDK keeps what those traits do not set themselves.
structure KeepsOthers (template : JobTemplate) (mixins : List Trait) (job : Job) : Prop where
  environment : ∀ key, (∀ mixin ∈ mixins, key ∉ mixin.environment.keys) →
    job.environment.get? key = template.environment.get? key
  downloads : ∀ key, (∀ mixin ∈ mixins, key ∉ mixin.downloads.keys) →
    job.downloads.get? key = template.downloads.get? key
  packages : ∀ key, (∀ mixin ∈ mixins, key ∉ mixin.packages.keys) →
    job.packages.get? key = template.packages.get? key
  docker : (∀ mixin ∈ mixins, mixin.docker = none) → job.docker = template.docker
  pythonVersion : (∀ mixin ∈ mixins, mixin.pythonVersion = none) → job.pythonVersion = template.pythonVersion

variable {builder : Builder} {machine : Machine} {template composed : JobTemplate} {kind : JobKind}
  {parameters : Parameters} {job : Job} {traits : List Trait}

theorem added_carries (added : Addition) : Carries composed (added.job machine composed kind) where
  run := by
    rw [Addition.job, Builder.job, List.map_append]
    exact List.prefix_append _ _
  setup := rfl
  capabilities := rfl
  environment := rfl
  downloads := rfl
  packages := rfl
  docker := rfl
  pythonVersion := rfl

theorem buildKind_carries (built : builder.buildKind machine template parameters kind = .ok job) :
    ∃ traits composed, builder.kindTraits template parameters kind = .ok traits ∧
      template.extend traits = .ok composed ∧ Carries composed job := by
  obtain ⟨traits, composed, added, found, extended, rfl⟩ := buildKind_made built
  exact ⟨traits, composed, found, extended, added_carries added⟩

-- The kinds that build the JDK bring traits of the registry, at least one, and the
-- others only traits of their own.

theorem mixins_traits (family : kind ∈ [JobKind.build, .muslBuild])
    (found : builder.kindTraits template parameters kind = .ok traits) :
    builder.mixins parameters kind = .ok traits ∧ traits ≠ [] := by
  have filled : ∀ musl, builder.registry.getAll (jdkMixins musl) = .ok traits → traits ≠ [] := by
    rintro musl got rfl
    have none := List.forall₂_nil_right_iff.mp (mapM_ok.mp got)
    cases musl with
    | true => cases none
    | false => cases none
  simp only [List.mem_cons, List.not_mem_nil, or_false] at family
  rcases family with rfl | rfl
  · exact ⟨found, filled _ found⟩
  · exact ⟨found, filled _ found⟩

theorem own_traits (family : kind ∉ [JobKind.build, .muslBuild])
    (found : builder.kindTraits template parameters kind = .ok traits) :
    traits = [requireLabsjdk template] ∨ traits = [requireLabsjdk template, cloneGraal builder.settings template] := by
  cases kind with
  | build | muslBuild => exact absurd (by simp) family
  | compilerTest | jsTest | libgraalBuild | libgraalTest =>
      cases found
      exact .inr rfl
  | runOnly =>
      cases found
      exact .inl rfl

theorem carried_all {settings : Settings}
    (own : traits = [requireLabsjdk template] ∨ traits = [requireLabsjdk template, cloneGraal settings template])
    (extended : template.extend traits = .ok composed) (carries : Carries composed job) : KeepsAll template job := by
  have form := JobTemplate.extend_form extended
  rcases own with rfl | rfl
  · constructor
    · exact carries.environment.trans (overlaid_unique form.environment (overlaid_cons overlaid_nil))
    · exact carries.downloads.trans (overlaid_unique form.downloads (overlaid_cons overlaid_nil))
    · exact carries.packages.trans (overlaid_unique form.packages (overlaid_cons overlaid_nil))
    · exact carries.docker.trans form.docker
    · exact carries.pythonVersion.trans form.pythonVersion
  · constructor
    · exact carries.environment.trans (overlaid_unique form.environment (overlaid_cons (overlaid_cons overlaid_nil)))
    · exact carries.downloads.trans (overlaid_unique form.downloads (overlaid_cons (overlaid_cons overlaid_nil)))
    · exact carries.packages.trans (overlaid_unique form.packages (overlaid_cons (overlaid_cons overlaid_nil)))
    · exact carries.docker.trans form.docker
    · exact carries.pythonVersion.trans form.pythonVersion

theorem untouched {α : Type} {read : Trait → Mapping α} {base result : Mapping α} {key : String}
    (overlaid : Overlaid base (traits.map read) result) (free : ∀ trait ∈ traits, key ∉ (read trait).keys) :
    result.get? key = base.get? key := by
  refine overlaid_untouched overlaid fun top present => ?_
  obtain ⟨trait, held, rfl⟩ := List.mem_map.mp present
  exact (Mapping.get?_none_iff _ _).mpr (free trait held)

theorem carried_others (extended : template.extend traits = .ok composed) (carries : Carries composed job) :
    KeepsOthers template traits job := by
  have form := JobTemplate.extend_form extended
  constructor
  · intro key free
    rw [carries.environment, untouched form.environment free]
  · intro key free
    rw [carries.downloads, untouched form.downloads free]
  · intro key free
    rw [carries.packages, untouched form.packages free]
  · intro silent
    rw [carries.docker, form.docker, lastSet_none silent, Option.none_or]
  · intro silent
    rw [carries.pythonVersion, form.pythonVersion, lastSet_none silent, Option.none_or]

theorem carried_steps (extended : template.extend traits = .ok composed) (carries : Carries composed job) :
    template.run.map Command.toValue <+: job.run ∧ template.setup.map Command.toValue <+: job.setup := by
  have form := JobTemplate.extend_form extended
  have ran := carries.run
  rw [form.run, List.map_append] at ran
  rw [carries.setup, form.setup, List.map_append]
  exact ⟨(List.prefix_append _ _).trans ran, List.prefix_append _ _⟩

theorem carried_capabilities {mixins : List Trait} (filled : traits ≠ [])
    (same : traits.flatMap Trait.capabilities = mixins.flatMap Trait.capabilities)
    (extended : template.extend traits = .ok composed) (carries : Carries composed job) :
    job.capabilities = (template.capabilities ++ mixins.flatMap Trait.capabilities).eraseDups := by
  rw [carries.capabilities, (JobTemplate.extend_form extended).capabilities, if_neg filled, same]

-- Building takes nothing away from a template. That a trait of the registry could move
-- a job to another machine is excluded by composing, not by the way a job is made.
theorem build_keeps (builder : Builder) (template : JobTemplate) (asked : Value) (given : GivenParameters) (job : Job)
    (built : builder.buildGiven template asked given = .ok job) : ∃ kind parameters mixins traits composed,
      JobKind.ofValue asked = .ok kind ∧ given.read = .ok parameters ∧ builder.mixins parameters kind = .ok mixins ∧
      builder.kindTraits template parameters kind = .ok traits ∧ template.extend traits = .ok composed ∧
      composed.os = some job.os ∧ composed.arch = some job.arch ∧ Keeps template mixins job ∧
      (kind ∈ [.build, .muslBuild] → KeepsOthers template mixins job) ∧
      (kind ∉ [.build, .muslBuild] → mixins = [] ∧ KeepsAll template job) := by
  obtain ⟨kind, which, built⟩ := bind_ok.mp built
  obtain ⟨parameters, read, built⟩ := bind_ok.mp built
  obtain ⟨machine, stated, made⟩ := build_kind built
  obtain ⟨os, arch⟩ := machineOf_ok stated
  obtain ⟨system, architecture⟩ := buildKind_machine made
  rw [← system] at os
  rw [← architecture] at arch
  obtain ⟨traits, composed, found, extended, carries⟩ := buildKind_carries made
  have form := JobTemplate.extend_form extended
  have steps := carried_steps extended carries
  have moved : composed.os = some job.os ∧ composed.arch = some job.arch := by
    rw [form.os, form.arch, os, arch]
    exact ⟨rfl, rfl⟩
  by_cases family : kind ∈ [JobKind.build, .muslBuild]
  · obtain ⟨mixed, filled⟩ := mixins_traits family found
    have capabilities := carried_capabilities filled rfl extended carries
    exact ⟨kind, parameters, traits, traits, composed, which, read, mixed, found, extended, moved.1, moved.2,
      ⟨os, arch, steps.1, steps.2, capabilities⟩, fun _ => carried_others extended carries,
      fun other => absurd family other⟩
  · have own := own_traits family found
    have capabilities : job.capabilities = (template.capabilities ++ [].flatMap Trait.capabilities).eraseDups := by
      rcases own with rfl | rfl
      · exact carried_capabilities (List.cons_ne_nil _ _) rfl extended carries
      · exact carried_capabilities (List.cons_ne_nil _ _) rfl extended carries
    exact ⟨kind, parameters, [], traits, composed, which, read, mixins_none family, found, extended, moved.1, moved.2,
      ⟨os, arch, steps.1, steps.2, capabilities⟩, fun jdk => absurd jdk family,
      fun _ => ⟨rfl, carried_all own extended carries⟩⟩

theorem forge_keeps : ∃ builder : Builder, ∃ template jdk image mixins,
    builder.buildGiven template (.text "build") (.named ∅) = .ok jdk ∧
    builder.buildGiven template (.text "libgraal-test") (.named ∅) = .ok image ∧
    builder.mixins ∅ .build = .ok mixins ∧ Keeps template mixins jdk ∧ KeepsOthers template mixins jdk ∧
    Keeps template [] image ∧ KeepsAll template image := by
  obtain ⟨template, jdk, image, _, first, second⟩ := forge_builds
  have built := (buildGiven_kind .build ∅).trans first
  have tested := (buildGiven_kind .libgraalTest ∅).trans second
  obtain ⟨_, _, mixins, _, _, which, read, mixed, _, _, _, _, keeps, others, _⟩ := build_keeps _ _ _ _ _ built
  obtain ⟨_, _, _, _, _, kind, _, _, _, _, _, _, also, _, all⟩ := build_keeps _ _ _ _ _ tested
  cases which
  cases read
  cases kind
  obtain ⟨rfl, whole⟩ := all (by decide)
  exact ⟨_, template, jdk, image, mixins, built, tested, mixed, keeps, others (by decide), also, whole⟩

end BuildMatrix.Builder
