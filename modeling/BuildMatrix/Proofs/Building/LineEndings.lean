import BuildMatrix.Proofs.Building.Kept

namespace BuildMatrix

-- How a directory may be copied: as the systems do it, or marked by a single word.
inductive Platform.UsualCopy : DirectoryCopy → Prop where
  | unix : UsualCopy unixCopyDir
  | windows : UsualCopy windowsCopyDir
  | marked (mark : String) : UsualCopy (wrapCopyDir mark)

def Trait.Usual (trait : Trait) : Prop := ∀ copy, trait.copyDir = some copy → Platform.UsualCopy copy
def Registry.Usual (registry : Registry) : Prop :=
  ∀ name trait, registry.traits.get? name = some trait → trait.Usual

def Value.lineEndings : Value := Steps.normalizeLineEndings.toValue

def Value.IsClone (step : Value) : Prop := ∃ arguments, step = .list (.text "git" :: .text "clone" :: arguments)

-- Where line endings matter they are set once, before anything is cloned; elsewhere
-- they are left alone. Something is cloned in any case.
structure ClonesSafely (os : Option Os) (steps : List Value) : Prop where
  windows : os = some .windows → ∃ before after, steps = before ++ Value.lineEndings :: after ∧
    Value.lineEndings ∉ before ∧ Value.lineEndings ∉ after ∧ ∀ step ∈ before, ¬step.IsClone
  elsewhere : os ≠ some .windows → Value.lineEndings ∉ steps
  cloned : ∃ step ∈ steps, step.IsClone

variable {template composed : JobTemplate} {settings : Settings} {traits : List Trait} {steps : List Command}

namespace Command

theorem arguments_distinct : (∀ one other, argumentValue one = argumentValue other → one = other) ∧
    ∀ these those, argumentValues these = argumentValues those → these = those := by
  refine argumentValue.mutual_induct _ _ ?text ?output ?nil ?cons
  case text =>
    intro string other same
    cases other with
    | text _ =>
        cases same
        rfl
    | output _ => cases same
  case output =>
    intro arguments ih other same
    cases other with
    | text _ => cases same
    | output others =>
        rw [argumentValue, argumentValue] at same
        rw [ih others (Value.list.inj same)]
  case nil =>
    intro those same
    cases those with
    | nil => rfl
    | cons _ _ => cases same
  case cons =>
    intro first rest head tail those same
    cases those with
    | nil => cases same
    | cons other others =>
        rw [argumentValues, argumentValues] at same
        obtain ⟨one, more⟩ := List.cons.inj same
        rw [head other one, tail others more]

theorem toValue_injective : Function.Injective toValue := fun one other same =>
  arguments_distinct.2 one other (Value.list.inj same)

end Command

namespace Steps

structure Opens (template : JobTemplate) (steps rest : List Command) : Prop where
  split : steps = lineEndings template ++ rest
  silent : normalizeLineEndings ∉ rest
  cloned : ∃ step ∈ rest, step.toValue.IsClone

theorem opens_safely {rest : List Command} (opens : Opens template steps rest) :
    ClonesSafely template.os (steps.map Command.toValue) := by
  obtain ⟨rfl, silent, step, present, clone⟩ := opens
  have later : Value.lineEndings ∉ rest.map Command.toValue := fun there =>
    silent ((List.mem_map_of_injective Command.toValue_injective).mp there)
  refine ⟨fun windows => ?_, fun other => ?_, ?_⟩
  · rw [lineEndings, if_pos windows]
    exact ⟨[], rest.map Command.toValue, rfl, List.not_mem_nil, later, by simp⟩
  · rw [lineEndings, if_neg other]
    exact later
  · exact ⟨step.toValue, List.mem_map_of_mem (List.mem_append_right _ present), clone⟩

theorem copied_silent (usual : Platform.UsualCopy template.copyDir) (source target : String) :
    Command.ofTexts (template.copyDir source target) ≠ normalizeLineEndings := by
  generalize template.copyDir = copy at usual
  cases usual with
  | unix => simp [Platform.unixCopyDir, Command.ofTexts, normalizeLineEndings]
  | windows => simp [Platform.windowsCopyDir, Command.ofTexts, normalizeLineEndings]
  | marked mark => simp [Platform.wrapCopyDir, Command.ofTexts, normalizeLineEndings]

theorem levels_silent (template : JobTemplate) (musl : Bool) (levels : List DebugLevel) :
    normalizeLineEndings ∉ levels.flatMap (buildLevel template musl) := by
  simp [buildLevel, exportHome, runBuilder, Command.ofTexts, normalizeLineEndings]

theorem jdk_opens (usual : Platform.UsualCopy template.copyDir) (settings : Settings) (musl : Bool) :
    ∃ rest, Opens template (jdk settings template musl) rest := by
  refine ⟨checkoutBuilder settings template ++ ((debugLevels musl).flatMap (buildLevel template musl) ++
    ((debugLevels musl).map (showVersion template) ++
      if musl then [] else (debugLevels musl).map (keepHome template))), ?_, ?_, ?_⟩
  · simp only [jdk, List.append_assoc]
  · have fetched : normalizeLineEndings ∉ checkoutBuilder settings template := by
      simp [checkoutBuilder, normalizeLineEndings]
    have shown : normalizeLineEndings ∉ (debugLevels musl).map (showVersion template) := by
      simp [showVersion, normalizeLineEndings]
    have copied : normalizeLineEndings ∉ if musl then [] else (debugLevels musl).map (keepHome template) := by
      cases musl with
      | true => exact List.not_mem_nil
      | false => simp [keepHome, copied_silent usual]
    simp only [List.mem_append, not_or]
    exact ⟨fetched, levels_silent template musl _, shown, copied⟩
  · exact ⟨_, List.mem_append_left _ (List.mem_cons_of_mem _ List.mem_cons_self), _, rfl⟩

theorem graal_opens (silent : normalizeLineEndings ∉ steps) (settings : Settings) (template : JobTemplate) :
    ∃ rest, Opens template (cloneGraal settings template ++ steps) rest := by
  have fetched : ∃ clone, cloneGraal settings template = lineEndings template ++ clone ∧
      normalizeLineEndings ∉ clone ∧ ∃ step ∈ clone, step.toValue.IsClone := by
    refine ⟨_, rfl, ?_, _, List.mem_cons_self, _, rfl⟩
    simp [normalizeLineEndings]
  obtain ⟨clone, split, quiet, step, present, clones⟩ := fetched
  refine ⟨clone ++ steps, ?_, ?_, step, List.mem_append_left _ present, clones⟩
  · rw [split, List.append_assoc]
  · rw [List.mem_append, not_or]
    exact ⟨quiet, silent⟩

theorem libgraalBuild_silent (usual : Platform.UsualCopy template.copyDir) :
    normalizeLineEndings ∉ libgraalBuild template := by
  have copied := copied_silent usual (envRef "LIBGRAAL_HOME") (envRef "PWD" ++ "/libgraal-home")
  simp only [libgraalBuild, List.mem_cons, List.not_mem_nil, or_false, not_or]
  refine ⟨?_, ?_, copied.symm, ?_⟩
  · simp [libgraalTool, Command.ofTexts, normalizeLineEndings]
  · simp [normalizeLineEndings]
  · simp [normalizeLineEndings]

theorem libgraalTest_silent (template : JobTemplate) : normalizeLineEndings ∉ libgraalTest template := by
  simp [libgraalTest, libgraalTool, Command.ofTexts, normalizeLineEndings]

theorem compilerTest_silent : normalizeLineEndings ∉ compilerTest := by
  simp [compilerTest, normalizeLineEndings]

theorem jsTest_silent : normalizeLineEndings ∉ jsTest := by
  simp [jsTest, normalizeLineEndings]

end Steps

namespace Builder

variable {builder : Builder} {machine : Machine} {kind : JobKind} {parameters : Parameters} {job : Job}

theorem extend_usual (usual : Platform.UsualCopy template.copyDir) (each : ∀ trait ∈ traits, trait.Usual)
    (extended : template.extend traits = .ok composed) : Platform.UsualCopy composed.copyDir := by
  rw [(JobTemplate.extend_form extended).copyDir]
  exact lastSet_getD usual each

def Follows (builder : Builder) (template : JobTemplate) (parameters : Parameters) (kind : JobKind) (job : Job) :
    Prop :=
  ∃ mixins steps, builder.mixins parameters kind = .ok mixins ∧
    job.run = broughtRun template mixins [] ++ steps ∧ ClonesSafely template.os steps

-- What traits bring does not move the job, so that its system is that of the template.
theorem jdk_follows {musl : Bool} (usual : Platform.UsualCopy template.copyDir) (mixed : builder.registry.Usual)
    (runs : template.os = some machine.os)
    (brought : builder.mixins parameters kind = builder.registry.getAll (jdkMixins musl))
    (built : builder.jdk machine template kind musl = .ok job) : Follows builder template parameters kind job := by
  obtain ⟨traits, found, built⟩ := bind_ok.mp built
  obtain ⟨composed, extended, built⟩ := bind_ok.mp built
  cases built
  have form := JobTemplate.extend_form extended
  have each : ∀ trait ∈ traits, trait.Usual := by
    intro trait present
    obtain ⟨name, _, got⟩ := related_right (mapM_ok.mp found) present
    exact mixed name trait (get_ok.mp got)
  have stays : composed.os = template.os := by rw [form.os, runs, Option.some_or]
  obtain ⟨rest, opens⟩ := Steps.jdk_opens (extend_usual usual each extended) builder.settings musl
  refine ⟨traits, (Steps.jdk builder.settings composed musl).map Command.toValue, brought.trans found, ?_, ?_⟩
  · simp only [Builder.job, broughtRun, form.run, List.map_append, List.append_nil]
  · rw [← stays]
    exact Steps.opens_safely opens

theorem graal_follows (downstream : kind ∉ [.build, .muslBuild])
    (extended : graalTemplate builder.settings template = .ok composed)
    (ran : job.run = (composed.run ++ steps).map Command.toValue) (silent : Steps.normalizeLineEndings ∉ steps) :
    Follows builder template parameters kind job := by
  obtain ⟨rest, opens⟩ := Steps.graal_opens silent builder.settings template
  refine ⟨[], (Steps.cloneGraal builder.settings template ++ steps).map Command.toValue, mixins_none downstream, ?_, ?_⟩
  · rw [ran, (JobTemplate.extend_form extended).run]
    simp [broughtRun, requireLabsjdk, cloneGraal]
  · exact Steps.opens_safely opens

theorem graal_usual (usual : Platform.UsualCopy template.copyDir)
    (extended : graalTemplate settings template = .ok composed) : Platform.UsualCopy composed.copyDir := by
  refine extend_usual usual ?_ extended
  intro trait present copy given
  simp only [List.mem_cons, List.not_mem_nil, or_false] at present
  rcases present with rfl | rfl
  · cases given
  · cases given

theorem buildKind_follows (usual : Platform.UsualCopy template.copyDir) (mixed : builder.registry.Usual)
    (runs : template.os = some machine.os) (other : kind ≠ .runOnly)
    (built : builder.buildKind machine template parameters kind = .ok job) :
    Follows builder template parameters kind job := by
  cases kind with
  | build => exact jdk_follows usual mixed runs rfl built
  | muslBuild => exact jdk_follows usual mixed runs rfl built
  | compilerTest =>
      obtain ⟨composed, extended, built⟩ := bind_ok.mp built
      cases built
      exact graal_follows (by decide) extended rfl Steps.compilerTest_silent
  | jsTest =>
      obtain ⟨composed, extended, built⟩ := bind_ok.mp built
      cases built
      exact graal_follows (by decide) extended rfl Steps.jsTest_silent
  | libgraalBuild =>
      obtain ⟨composed, extended, built⟩ := bind_ok.mp built
      cases built
      exact graal_follows (by decide) extended rfl (Steps.libgraalBuild_silent (graal_usual usual extended))
  | libgraalTest =>
      obtain ⟨composed, extended, built⟩ := bind_ok.mp built
      cases built
      exact graal_follows (by decide) extended rfl (Steps.libgraalTest_silent composed)
  | runOnly => exact absurd rfl other

-- Behind what was brought along, the builder of every kind that builds or tests sees to
-- the line endings by itself: once and first on the system that needs it, not at all on
-- the others.
theorem build_safely (builder : Builder) (template : JobTemplate) (asked : Value) (given : GivenParameters)
    (job : Job) (usual : Platform.UsualCopy template.copyDir) (mixed : builder.registry.Usual)
    (built : builder.buildGiven template asked given = .ok job) : ∃ kind parameters,
      JobKind.ofValue asked = .ok kind ∧ given.read = .ok parameters ∧
      (kind ≠ .runOnly → ∃ mixins steps, builder.mixins parameters kind = .ok mixins ∧
        job.run = broughtRun template mixins [] ++ steps ∧ ClonesSafely template.os steps) := by
  obtain ⟨kind, which, built⟩ := bind_ok.mp built
  obtain ⟨parameters, read, built⟩ := bind_ok.mp built
  obtain ⟨machine, stated, made⟩ := build_kind built
  exact ⟨kind, parameters, which, read, fun other =>
    buildKind_follows usual mixed (machineOf_ok stated).1 other made⟩

theorem catalogue_usual : ∀ trait ∈ Catalogue.traits, trait.Usual := by
  intro trait present
  obtain ⟨_, _, _, copyDir⟩ := catalogue_spellings trait present
  exact one_of_two .unix .windows copyDir

theorem forge_safely : ∃ builder : Builder, ∃ template jdk image mixins steps others,
    template.os = some .windows ∧ builder.buildGiven template (.text "build") (.named ∅) = .ok jdk ∧
    builder.buildGiven template (.text "libgraal-test") (.named ∅) = .ok image ∧
    builder.mixins ∅ .build = .ok mixins ∧
    jdk.run = broughtRun template mixins [] ++ steps ∧ ClonesSafely template.os steps ∧
    image.run = broughtRun template [] [] ++ others ∧ ClonesSafely template.os others := by
  obtain ⟨template, jdk, image, composed, first, second⟩ := forge_builds
  have form := JobTemplate.extend_form composed
  have listed : forgeTraits ⊆ Catalogue.traits := by simp [forgeTraits, Catalogue.traits]
  have usual : Platform.UsualCopy template.copyDir :=
    extend_usual .unix (fun trait present => catalogue_usual trait (listed present)) composed
  have mixed : (Builder.make none none).registry.Usual :=
    fun name trait held => catalogue_usual trait (catalogue_listed (get_ok.mpr held))
  have built := (buildGiven_kind .build ∅).trans first
  have tested := (buildGiven_kind .libgraalTest ∅).trans second
  obtain ⟨_, _, which, read, builds⟩ := build_safely _ template _ _ jdk usual mixed built
  obtain ⟨_, _, kind, named, clones⟩ := build_safely _ template _ _ image usual mixed tested
  cases which
  cases read
  cases kind
  cases named
  obtain ⟨mixins, steps, brought, ran, safely⟩ := builds (by decide)
  obtain ⟨_, others, own, cloned, also⟩ := clones (by decide)
  cases own
  exact ⟨_, template, jdk, image, mixins, steps, others, form.os, built, tested, brought, ran, safely, cloned, also⟩

end Builder
end BuildMatrix
