import BuildMatrix.Proofs.Building.Covered
import BuildMatrix.Proofs.Generation.Origins

namespace BuildMatrix

variable {template composed : JobTemplate} {traits : List Trait}

structure Registry.Equipped (registry : Registry) : Prop where
  boot : ∀ name ∈ ["boot-jdk", "musl-boot-jdk"], ∀ trait, registry.traits.get? name = some trait →
    "BOOT_JDK" ∈ trait.downloads.keys
  harness : ∀ trait, registry.traits.get? "jtreg" = some trait → "JT_HOME" ∈ trait.downloads.keys

-- What is defined in a job once some of its steps have been taken.
def Job.defined (job : Job) (taken : List Value) : List String :=
  "PWD" :: (job.downloads.keys ++ job.environment.keys) ++ taken.filterMap Value.exported?

namespace Builder

variable {builder : Builder} {machine : Machine} {kind : JobKind} {parameters : Parameters} {job : Job}

def mixins (builder : Builder) (parameters : Parameters) : JobKind → Except Failure (List Trait)
  | .build => builder.registry.getAll (jdkMixins (muslFlag parameters))
  | .muslBuild => builder.registry.getAll (jdkMixins true)
  | _ => .ok []

theorem mixins_none (downstream : kind ∉ [JobKind.build, .muslBuild]) : builder.mixins parameters kind = .ok [] := by
  cases kind with
  | build | muslBuild => exact absurd (by simp) downstream
  | compilerTest | jsTest | libgraalBuild | libgraalTest | runOnly => rfl

-- The steps that the template and those traits brought, and the commands that were
-- given. All others are the builder's own.

def broughtSetup (template : JobTemplate) (mixins : List Trait) : List Value :=
  (template.setup ++ mixins.flatMap Trait.setup).map Command.toValue

def broughtRun (template : JobTemplate) (mixins : List Trait) (given : List Command) : List Value :=
  (template.run ++ mixins.flatMap Trait.run ++ given).map Command.toValue

structure Provenance (builder : Builder) (template : JobTemplate) (kind : JobKind) (parameters : Parameters)
    (job : Job) (mixins : List Trait) (given : List Command) (setup run : List Value) : Prop where
  found : builder.mixins parameters kind = .ok mixins
  asked : if kind = .runOnly then ∃ composed name, template.extend [requireLabsjdk template] = .ok composed ∧
    commandsOf composed name parameters = .ok given else given = []
  setup : job.setup = broughtSetup template mixins ++ setup
  run : job.run = broughtRun template mixins given ++ run

structure Downstream (template : JobTemplate) (job : Job) : Prop where
  setup : job.setup = broughtSetup template [] ++ [Steps.exportJavaHome template].map Command.toValue
  home : job.environment.get? "LABSJDK_HOME" =
    some (template.path (Steps.envRef "PWD" ++ "/jdk/release-java-home"))

structure Scoped (builder : Builder) (template : JobTemplate) (kind : JobKind) (parameters : Parameters)
    (job : Job) : Prop where
  steps : ∃ mixins given setup run, Provenance builder template kind parameters job mixins given setup run ∧
    Covered (job.defined (broughtSetup template mixins)) setup ∧
    Covered (job.defined (job.setup ++ broughtRun template mixins given)) run
  home : kind ∉ [.build, .muslBuild] → Downstream template job

theorem mixin_download {names : List String} (found : builder.registry.getAll names = .ok traits)
    (extended : template.extend traits = .ok composed) {name key : String} (present : name ∈ names)
    (supplied : ∀ trait, builder.registry.traits.get? name = some trait → key ∈ trait.downloads.keys) :
    key ∈ composed.downloads.keys := by
  obtain ⟨trait, held, got⟩ := related_left (mapM_ok.mp found) present
  rw [(JobTemplate.extend_form extended).downloads.keys, List.mem_eraseDups]
  refine List.mem_append_right _ (List.mem_flatMap.mpr ⟨trait.downloads, ?_, supplied trait (get_ok.mp got)⟩)
  exact List.mem_map_of_mem held

theorem jdk_scoped {musl : Bool} (family : kind = .build ∧ musl = muslFlag parameters ∨ kind = .muslBuild ∧ musl = true)
    (unmarked : builder.settings.Unmarked) (equipped : builder.registry.Equipped) (faithful : template.Faithful)
    (mixed : ∀ mixins, builder.mixins parameters kind = .ok mixins → ∀ trait ∈ mixins, trait.Faithful)
    (built : builder.jdk machine template kind musl = .ok job) : Scoped builder template kind parameters job := by
  obtain ⟨traits, found, built⟩ := bind_ok.mp built
  obtain ⟨composed, extended, built⟩ := bind_ok.mp built
  cases built
  have form := JobTemplate.extend_form extended
  have mixins : builder.mixins parameters kind = .ok traits := by
    rcases family with ⟨rfl, rfl⟩ | ⟨rfl, rfl⟩
    · exact found
    · exact found
  have boot : "BOOT_JDK" ∈ composed.downloads.keys := by
    cases musl with
    | true => exact mixin_download found extended (by simp [jdkMixins]) (equipped.boot "musl-boot-jdk" (by simp))
    | false => exact mixin_download found extended (by simp [jdkMixins]) (equipped.boot "boot-jdk" (by simp))
  have harness : musl = false → "JT_HOME" ∈ composed.downloads.keys := by
    rintro rfl
    exact mixin_download found extended (by simp [jdkMixins]) equipped.harness
  refine ⟨⟨traits, [], [], (Steps.jdk builder.settings composed musl).map Command.toValue, ⟨mixins, ?_, ?_, ?_⟩,
    trivial, ?_⟩, fun other => ?_⟩
  · rcases family with ⟨rfl, _⟩ | ⟨rfl, _⟩
    · rfl
    · rfl
  · simp only [Builder.job, broughtSetup, form.setup, List.append_nil]
  · simp only [Builder.job, broughtRun, form.run, List.append_nil, List.map_append]
  · refine Steps.jdk_covered (extend_faithful faithful (mixed traits mixins) extended) unmarked ?_ fun plain => ?_
    · simp [Job.defined, Builder.job, boot]
    · simp [Job.defined, Builder.job, harness plain]
  · rcases family with ⟨rfl, _⟩ | ⟨rfl, _⟩
    · exact absurd (by simp) other
    · exact absurd (by simp) other

theorem downstream_job {others : List Trait} (quiet : ∀ trait ∈ others, trait.setup = [] ∧ trait.environment = ∅)
    (extended : template.extend (requireLabsjdk template :: others) = .ok composed)
    (prepared : job.setup = composed.setup.map Command.toValue) (given : job.environment = composed.environment) :
    Downstream template job := by
  have form := JobTemplate.extend_form extended
  constructor
  · have none : others.flatMap Trait.setup = [] :=
      List.flatMap_eq_nil_iff.mpr fun trait present => (quiet trait present).1
    rw [prepared, form.setup, List.flatMap_cons, none]
    simp only [broughtSetup, requireLabsjdk, List.flatMap_nil, List.append_nil, List.map_append]
  · have unset : (others.map Trait.environment).filterMap (fun top => top.get? "LABSJDK_HOME") = [] := by
      rw [List.filterMap_eq_nil_iff]
      intro top present
      obtain ⟨trait, held, rfl⟩ := List.mem_map.mp present
      rw [(quiet trait held).2]
      rfl
    rw [given, form.environment.value, List.map_cons, lastSet_cons, lastSet, unset, List.getLast?_nil, Option.none_or]
    rfl

theorem home_known (down : Downstream template job) (taken : List Value) : "LABSJDK_HOME" ∈ job.defined taken := by
  have key : "LABSJDK_HOME" ∈ job.environment.keys := List.mem_map.mpr ⟨_, Mapping.mem_rows down.home, rfl⟩
  simp [Job.defined, key]

theorem place_known (job : Job) (taken : List Value) : "PWD" ∈ job.defined taken := by simp [Job.defined]

theorem graal_faithful (settings : Settings) (template : JobTemplate) :
    ∀ trait ∈ [requireLabsjdk template, cloneGraal settings template], trait.Faithful := by
  intro trait present
  simp only [List.mem_cons, List.not_mem_nil, or_false] at present
  rcases present with rfl | rfl
  · exact ⟨nofun, nofun, nofun, nofun⟩
  · exact ⟨nofun, nofun, nofun, nofun⟩

theorem graal_scoped {steps : List Command} (unmarked : builder.settings.Unmarked) (faithful : template.Faithful)
    (extended : graalTemplate builder.settings template = .ok composed)
    (graal : kind ∈ [.compilerTest, .jsTest, .libgraalBuild, .libgraalTest])
    (prepared : job.setup = composed.setup.map Command.toValue)
    (ran : job.run = (composed.run ++ steps).map Command.toValue) (given : job.environment = composed.environment)
    (covered : ∀ known, "PWD" ∈ known → Covered known (steps.map Command.toValue)) :
    Scoped builder template kind parameters job := by
  have quiet : ∀ trait ∈ [cloneGraal builder.settings template], trait.setup = [] ∧ trait.environment = ∅ := by
    intro trait present
    rw [List.mem_singleton.mp present]
    exact ⟨rfl, rfl⟩
  have down := downstream_job quiet extended prepared given
  have other : kind ∉ [.build, .muslBuild] ∧ kind ≠ .runOnly := by
    simp only [List.mem_cons, List.not_mem_nil, or_false] at graal
    rcases graal with rfl | rfl | rfl | rfl
    all_goals exact ⟨by decide, by decide⟩
  refine ⟨⟨[], [], _, (Steps.cloneGraal builder.settings template ++ steps).map Command.toValue,
    ⟨mixins_none other.1, by rw [if_neg other.2], down.setup, ?_⟩, ?_, ?_⟩, fun _ => down⟩
  · rw [ran, (JobTemplate.extend_form extended).run]
    simp [broughtRun, requireLabsjdk, cloneGraal]
  · exact Steps.exportJavaHome_covered faithful (home_known down _)
  · rw [List.map_append, covered_append]
    exact ⟨Steps.cloneGraal_covered unmarked template, covered _ (List.mem_append_left _ (place_known job _))⟩

theorem runOnly_scoped (faithful : template.Faithful) (built : runOnly machine template parameters = .ok job) :
    Scoped builder template .runOnly parameters job := by
  obtain ⟨label, _, built⟩ := bind_ok.mp built
  obtain ⟨composed, extended, built⟩ := bind_ok.mp built
  obtain ⟨steps, read, built⟩ := bind_ok.mp built
  have down : Downstream template job := by
    cases built
    exact downstream_job (by simp) extended rfl rfl
  cases built
  refine ⟨⟨[], steps, _, [], ⟨rfl, ⟨composed, _, extended, read⟩, down.setup, ?_⟩, ?_, trivial⟩, fun _ => down⟩
  · simp [Builder.job, broughtRun, (JobTemplate.extend_form extended).run, requireLabsjdk]
  · exact Steps.exportJavaHome_covered faithful (home_known down _)

theorem buildKind_scoped (unmarked : builder.settings.Unmarked) (equipped : builder.registry.Equipped)
    (faithful : template.Faithful)
    (mixed : ∀ mixins, builder.mixins parameters kind = .ok mixins → ∀ trait ∈ mixins, trait.Faithful)
    (built : builder.buildKind machine template parameters kind = .ok job) :
    Scoped builder template kind parameters job := by
  cases kind with
  | build => exact jdk_scoped (.inl ⟨rfl, rfl⟩) unmarked equipped faithful mixed built
  | muslBuild => exact jdk_scoped (.inr ⟨rfl, rfl⟩) unmarked equipped faithful mixed built
  | runOnly => exact runOnly_scoped faithful built
  | compilerTest =>
      obtain ⟨composed, extended, built⟩ := bind_ok.mp built
      cases built
      exact graal_scoped unmarked faithful extended (by simp) rfl rfl rfl fun known _ => Steps.compilerTest_covered
  | jsTest =>
      obtain ⟨composed, extended, built⟩ := bind_ok.mp built
      cases built
      exact graal_scoped unmarked faithful extended (by simp) rfl rfl rfl fun known _ => Steps.jsTest_covered
  | libgraalBuild =>
      obtain ⟨composed, extended, built⟩ := bind_ok.mp built
      cases built
      have spelled := extend_faithful faithful (graal_faithful builder.settings template) extended
      exact graal_scoped unmarked faithful extended (by simp) rfl rfl rfl fun known =>
        Steps.libgraalBuild_covered spelled
  | libgraalTest =>
      obtain ⟨composed, extended, built⟩ := bind_ok.mp built
      cases built
      have spelled := extend_faithful faithful (graal_faithful builder.settings template) extended
      exact graal_scoped unmarked faithful extended (by simp) rfl rfl rfl fun known =>
        Steps.libgraalTest_covered spelled

theorem defined_append (job : Job) (first second : List Value) :
    job.defined (first ++ second) = job.defined first ++ second.filterMap Value.exported? := by
  simp only [Job.defined, List.filterMap_append, List.append_assoc]

-- Whatever a step that the builder adds refers to is there when the step is taken: the
-- place of the job, a download, a variable of the environment, or an export before it.
theorem build_defined (builder : Builder) (template : JobTemplate) (kind : JobKind) (parameters : Parameters) (job : Job)
    (unmarked : builder.settings.Unmarked) (equipped : builder.registry.Equipped) (faithful : template.Faithful)
    (mixed : ∀ mixins, builder.mixins parameters kind = .ok mixins → ∀ trait ∈ mixins, trait.Faithful)
    (built : builder.build template kind parameters = .ok job) :
    (∃ mixins given setup run, Provenance builder template kind parameters job mixins given setup run ∧
      (∀ before step after, setup = before ++ step :: after →
        step.mentions ⊆ job.defined (broughtSetup template mixins ++ before)) ∧
      ∀ before step after, run = before ++ step :: after →
        step.mentions ⊆ job.defined (job.setup ++ broughtRun template mixins given ++ before)) ∧
    (kind ∉ [.build, .muslBuild] → ∃ home, job.environment.get? "LABSJDK_HOME" = some home ∧
      references home ⊆ job.defined []) := by
  obtain ⟨machine, _, made⟩ := build_kind built
  obtain ⟨⟨mixins, given, setup, run, provenance, prepared, ran⟩, home⟩ :=
    buildKind_scoped unmarked equipped faithful mixed made
  refine ⟨⟨mixins, given, setup, run, provenance, ?_, ?_⟩, ?_⟩
  · rintro before step after rfl
    rw [defined_append]
    exact covered_step prepared
  · rintro before step after rfl
    rw [defined_append]
    exact covered_step ran
  · intro downstream
    refine ⟨_, (home downstream).home, ?_⟩
    exact Steps.under_mentions faithful.path (by decide) (by decide) (place_known job [])

end Builder

theorem catalogue_spellings : ∀ trait ∈ Catalogue.traits,
    trait.path ∈ [none, some Platform.unixPath, some Platform.windowsPath] ∧
    trait.exe ∈ [none, some Platform.unixExe, some Platform.windowsExe] ∧
    trait.jdkHome ∈ [none, some Platform.unixJdkHome, some Platform.darwinJdkHome] ∧
    trait.copyDir ∈ [none, some Platform.unixCopyDir, some Platform.windowsCopyDir] := by
  simp [Catalogue.traits, Catalogue.mx, Catalogue.osBase, Catalogue.linux, Catalogue.linuxMusl, Catalogue.darwin,
    Catalogue.windows, Catalogue.amd64, Catalogue.amd64Musl, Catalogue.aarch64, Catalogue.bootJdk,
    Catalogue.muslBootJdk, Catalogue.jtreg, Catalogue.buildPackages]

theorem one_of_two {α : Type} {fits : α → Prop} {held : Option α} {one other : α} (first : fits one)
    (second : fits other) (listed : held ∈ [none, some one, some other]) : ∀ value, held = some value → fits value := by
  rintro value rfl
  simp only [List.mem_cons, List.not_mem_nil, or_false, Option.some.injEq, reduceCtorEq, false_or] at listed
  rcases listed with rfl | rfl
  · exact first
  · exact second

theorem catalogue_faithful : ∀ trait ∈ Catalogue.traits, trait.Faithful := by
  obtain ⟨unix, windows, executable, bundle⟩ := Platform.spellings_faithful
  obtain ⟨copied, exchanged⟩ := Platform.copies_faithful
  intro trait present
  obtain ⟨path, exe, jdkHome, copyDir⟩ := catalogue_spellings trait present
  exact ⟨one_of_two unix windows path, one_of_two unix executable exe, one_of_two unix bundle jdkHome,
    one_of_two copied exchanged copyDir⟩

theorem catalogue_equipped : Registry.catalogue.Equipped := by
  have held : Catalogue.table.get? "boot-jdk" = some Catalogue.bootJdk ∧
      Catalogue.table.get? "musl-boot-jdk" = some Catalogue.muslBootJdk ∧
      Catalogue.table.get? "jtreg" = some Catalogue.jtreg := ⟨rfl, rfl, rfl⟩
  constructor
  · intro name present trait found
    simp only [List.mem_cons, List.not_mem_nil, or_false] at present
    rcases present with rfl | rfl
    · cases held.1.symm.trans found
      decide
    · cases held.2.1.symm.trans found
      decide
  · intro trait found
    cases held.2.2.symm.trans found
    decide

namespace Builder

theorem catalogue_mixins {parameters : Parameters} {kind : JobKind} {mixins : List Trait}
    (found : (Builder.make none none).mixins parameters kind = .ok mixins) : ∀ trait ∈ mixins, trait.Faithful := by
  intro trait present
  cases kind with
  | build | muslBuild =>
      obtain ⟨name, _, got⟩ := related_right (mapM_ok.mp found) present
      exact catalogue_faithful trait (catalogue_listed got)
  | compilerTest | jsTest | libgraalBuild | libgraalTest | runOnly =>
      cases found
      cases present

def forgeTraits : List Trait := [Catalogue.osBase, Catalogue.windows, Catalogue.amd64]

theorem forge_builds : ∃ template jdk image, JobTemplate.compose forgeTraits = .ok template ∧
    (Builder.make none none).build template .build ∅ = .ok jdk ∧
    (Builder.make none none).build template .libgraalTest ∅ = .ok image := by
  have succeeds : (do
      let template ← JobTemplate.compose forgeTraits
      let jdk ← (Builder.make none none).build template .build ∅
      let image ← (Builder.make none none).build template .libgraalTest ∅
      return (template, jdk, image)).isOk = true := rfl
  obtain ⟨_, ran⟩ := isOk_value succeeds
  obtain ⟨template, composed, ran⟩ := bind_ok.mp ran
  obtain ⟨jdk, first, ran⟩ := bind_ok.mp ran
  obtain ⟨image, second, _⟩ := bind_ok.mp ran
  exact ⟨template, jdk, image, composed, first, second⟩

theorem forge_defined : ∃ template jdk image, JobTemplate.compose forgeTraits = .ok template ∧
    (Builder.make none none).build template .build ∅ = .ok jdk ∧
    (Builder.make none none).build template .libgraalTest ∅ = .ok image ∧
    (∃ mixins given setup run, Provenance (Builder.make none none) template .build ∅ jdk mixins given setup run ∧
      ∀ before step after, run = before ++ step :: after →
        step.mentions ⊆ jdk.defined (jdk.setup ++ broughtRun template mixins given ++ before)) ∧
    ∃ home, image.environment.get? "LABSJDK_HOME" = some home ∧ references home ⊆ image.defined [] := by
  obtain ⟨template, jdk, image, composed, first, second⟩ := forge_builds
  have settings : (Builder.make none none).settings.Unmarked := by
    unfold Settings.Unmarked
    decide
  have listed : forgeTraits ⊆ Catalogue.traits := by simp [forgeTraits, Catalogue.traits]
  have spelled : template.Faithful := by
    obtain ⟨unix, _⟩ := Platform.spellings_faithful
    have empty : JobTemplate.empty.Faithful := ⟨unix, unix, unix, Platform.copies_faithful.1⟩
    exact extend_faithful empty (fun trait present => catalogue_faithful trait (listed present)) composed
  refine ⟨template, jdk, image, composed, first, second, ?_, ?_⟩
  · obtain ⟨⟨mixins, given, setup, run, provenance, _, ran⟩, _⟩ := build_defined (Builder.make none none) template
      .build ∅ jdk settings catalogue_equipped spelled (fun _ => catalogue_mixins) first
    exact ⟨mixins, given, setup, run, provenance, ran⟩
  · exact (build_defined (Builder.make none none) template .libgraalTest ∅ image settings catalogue_equipped spelled
      (fun _ => catalogue_mixins) second).2 (by decide)

end Builder
end BuildMatrix
