import BuildMatrix.Proofs.Building.Faults
import BuildMatrix.Proofs.Building.Kept
import BuildMatrix.Proofs.Generation.Outcome

namespace BuildMatrix

def Registry.Holds (registry : Registry) (names : List String) (traits : List Trait) : Prop :=
  List.Forall₂ (fun name trait => registry.traits.get? name = some trait) names traits

-- A job into which nothing went but traits of one registry: its base and a combination in
-- the template, and what the kind brings along on top of it.
def Cell.MadeOf (registry : Registry) (settings : Settings) (cell : Cell) (job : Job) : Prop :=
  ∃ base own template mixins, registry.Holds registry.base base ∧ registry.Holds cell.combination own ∧
    JobTemplate.compose (base ++ own) = .ok template ∧
    registry.Holds (Builder.jdkNames cell.parameters cell.kind) mixins ∧
    Builder.build ⟨settings, registry⟩ template cell.kind cell.parameters = .ok job ∧
    (cell.kind ∈ [.build, .muslBuild] →
      ∃ composed, template.extend mixins = .ok composed ∧ Builder.Carries composed job)

def Combination.Unknown (registry : Registry) (combination : Combination) (failure : Failure) : Prop :=
  ∃ known missing rest, combination = known ++ missing :: rest ∧ known ⊆ registry.names ∧ missing ∉ registry.names ∧
    failure = Registry.unknown registry.traits (.text missing) ∧ failure.report.kind = .configuration

-- Pipelines are made from the traits of a registry that was given and from no others. A
-- name that it does not have is told, unless something fails before that name is asked for.
structure Registry.OnlySource (registry : Registry) : Prop where
  names : ∀ matrices settings pipeline, Pipeline.generate (some registry) matrices settings = .ok pipeline →
    ∀ cell ∈ cellsOf (matrices.getD Matrix.defaults),
      cell.combination ++ Builder.jdkNames cell.parameters cell.kind ⊆ registry.names
  jobs : ∀ matrices settings pipeline, Pipeline.generate (some registry) matrices settings = .ok pipeline →
    List.Forall₂ (Cell.MadeOf registry (settings.getD {})) (pipelineCells (matrices.getD Matrix.defaults)) pipeline.jobs
  strangers : ∀ matrices settings before matrix after earlier combination later,
    matrices.getD Matrix.defaults = before ++ matrix :: after → matrix.combinations = earlier ++ combination :: later →
    ¬combination ⊆ registry.names → ∃ failure, Pipeline.generate (some registry) matrices settings = .error failure ∧
      (Combination.Unknown registry combination failure ∨
        jobsInTurn ⟨settings.getD {}, registry⟩ before = .error failure ∨
        earlier.mapM (Combination.template registry) = .error failure)

variable {registry : Registry} {settings : Settings} {names : List String} {traits : List Trait} {cell : Cell}
  {job : Job}

theorem getAll_holds : registry.getAll names = .ok traits ↔ registry.Holds names traits := by
  unfold Registry.getAll Registry.Holds
  rw [mapM_ok]
  simp only [get_ok]

theorem mem_names {name : String} : name ∈ registry.names ↔ ∃ trait, registry.traits.get? name = some trait := by
  rw [← Option.isSome_iff_exists, ← Option.ne_none_iff_isSome, ne_eq, Mapping.get?_none_iff, not_not, Registry.names]

theorem known_names : Builder.Known registry names ↔ names ⊆ registry.names :=
  forall₂_congr fun _ _ => mem_names.symm

theorem holds_names (holds : registry.Holds names traits) : names ⊆ registry.names := by
  intro name present
  obtain ⟨trait, _, held⟩ := related_left holds present
  exact mem_names.mpr ⟨trait, held⟩

theorem orCatalogue_filled (filled : registry.isEmpty = false) : Registry.orCatalogue (some registry) = registry := by
  simp [Registry.orCatalogue, filled]

theorem resolve_holds (found : registry.resolve names = .ok traits) :
    ∃ base own, registry.Holds registry.base base ∧ registry.Holds names own ∧ traits = base ++ own := by
  unfold Registry.resolve Registry.getAll at found
  rw [List.mapM_append] at found
  obtain ⟨base, first, found⟩ := bind_ok.mp found
  obtain ⟨own, second, found⟩ := bind_ok.mp found
  cases found
  exact ⟨base, own, getAll_holds.mp first, getAll_holds.mp second, rfl⟩

theorem kind_mixins (builder : Builder) (template : JobTemplate) (parameters : Parameters) {kind : JobKind}
    (family : kind ∈ [JobKind.build, .muslBuild]) : builder.kindTraits template parameters kind =
      builder.registry.getAll (Builder.jdkNames parameters kind) := by
  simp only [List.mem_cons, List.not_mem_nil, or_false] at family
  rcases family with rfl | rfl
  · rfl
  · rfl

theorem cell_madeOf (filled : registry.isEmpty = false) (built : cell.job ⟨settings, registry⟩ = .ok job) :
    cell.MadeOf registry settings job := by
  obtain ⟨template, composed, built⟩ := bind_ok.mp built
  unfold Cell.template Combination.template at composed
  rw [orCatalogue_filled filled] at composed
  obtain ⟨resolved, found, composed⟩ := bind_ok.mp composed
  obtain ⟨base, own, first, second, rfl⟩ := resolve_holds found
  obtain ⟨machine, _, made⟩ := build_kind built
  obtain ⟨traits, whole, brought, extended, carries⟩ := Builder.buildKind_carries made
  by_cases family : cell.kind ∈ [JobKind.build, .muslBuild]
  · rw [kind_mixins _ _ _ family] at brought
    exact ⟨base, own, template, traits, first, second, composed, getAll_holds.mp brought, built,
      fun _ => ⟨whole, extended, carries⟩⟩
  · have none : Builder.jdkNames cell.parameters cell.kind = [] := by
      by_contra some
      rcases Builder.jdkNames_kind some with same | same
      · exact family (by simp [same])
      · exact family (by simp [same])
    exact ⟨base, own, template, [], first, second, composed, none ▸ .nil, built, fun member => absurd member family⟩

theorem madeOf_names (made : cell.MadeOf registry settings job) :
    cell.combination ++ Builder.jdkNames cell.parameters cell.kind ⊆ registry.names := by
  obtain ⟨_, _, _, _, _, own, _, mixins, _⟩ := made
  exact List.append_subset.mpr ⟨holds_names own, holds_names mixins⟩

theorem template_unknown {combination : Combination} (foreign : ¬combination ⊆ registry.names) :
    ∃ failure, combination.template registry = .error failure ∧ Combination.Unknown registry combination failure := by
  rcases Builder.known_or_missing registry combination with known | ⟨known, missing, rest, rfl, before, absent⟩
  · exact absurd (known_names.mp known) foreign
  · have based : registry.base ⊆ registry.names := fun name present => by
      simpa [Registry.names, Mapping.contains] using registry.base_known name present
    have passed : Builder.Known registry (registry.base ++ known) :=
      known_names.mpr (List.append_subset.mpr ⟨based, known_names.mp before⟩)
    have stopped : registry.getAll (registry.base ++ known ++ missing :: rest) = _ :=
      Builder.getAll_missing passed absent
    rw [List.append_assoc] at stopped
    refine ⟨_, bind_error.mpr (.inl stopped), known, missing, rest, rfl, known_names.mp before, ?_, rfl, rfl⟩
    exact (Mapping.get?_none_iff _ _).mp absent

theorem jobsInTurn_unknown (before after : List Matrix) {matrix : Matrix} {earlier later : List Combination}
    {combination : Combination} (filled : registry.isEmpty = false)
    (held : matrix.combinations = earlier ++ combination :: later) (foreign : ¬combination ⊆ registry.names) :
    ∃ failure, jobsInTurn ⟨settings, registry⟩ (before ++ matrix :: after) = .error failure ∧
      (Combination.Unknown registry combination failure ∨ jobsInTurn ⟨settings, registry⟩ before = .error failure ∨
        earlier.mapM (Combination.template registry) = .error failure) := by
  obtain ⟨unknown, refused, tells⟩ := template_unknown foreign
  obtain ⟨first, stopped, reasons⟩ := mapM_stops _ earlier later refused
  have unbuilt : matrix.jobs ⟨settings, registry⟩ = .error first := by
    refine bind_error.mpr (.inl ?_)
    rw [Matrix.templates, orCatalogue_filled filled, Matrix.templatesIn, held, stopped]
  obtain ⟨told, failed, source⟩ := mapM_stops
    (fun one : Matrix => do return (one.kind, ← one.jobs ⟨settings, registry⟩)) before after
    (bind_error.mpr (.inl unbuilt))
  refine ⟨told, failed, ?_⟩
  rcases source with rfl | sooner
  · rcases reasons with rfl | early
    · exact .inl tells
    · exact .inr (.inr early)
  · exact .inr (.inl sooner)

namespace Pipeline

variable {matrices : Option (List Matrix)} {given : Option Settings}

theorem filled_onlySource (filled : registry.isEmpty = false) : registry.OnlySource := by
  have builder : ∀ given : Option Settings, Builder.make given (some registry) = ⟨given.getD {}, registry⟩ :=
    fun given => by rw [Builder.make, orCatalogue_filled filled]
  have jobs : ∀ matrices given pipeline, generate (some registry) matrices given = .ok pipeline →
      List.Forall₂ (Cell.MadeOf registry (given.getD {})) (pipelineCells (matrices.getD Matrix.defaults))
        pipeline.jobs := by
    intro matrices given pipeline generated
    obtain ⟨groups, built, _, rfl⟩ := generate_ok generated
    rw [builder] at built
    exact (jobsByKind_ok.mp ⟨groups, built, rfl⟩).imp fun _ _ => cell_madeOf filled
  refine ⟨?_, jobs, ?_⟩
  · intro matrices given pipeline generated cell present
    obtain ⟨job, _, made⟩ := related_left (jobs matrices given pipeline generated) (mem_pipelineCells.mpr present)
    exact madeOf_names made
  · intro matrices given before matrix after earlier combination later all held foreign
    obtain ⟨failure, stopped, reasons⟩ := jobsInTurn_unknown before after filled held foreign
    refine ⟨failure, ?_, reasons⟩
    rw [generate_turns, builder, all, stopped]
    rfl

theorem empty_unnoticed (empty : registry.isEmpty = true) (matrices : Option (List Matrix)) (given : Option Settings) :
    generate (some registry) matrices given = generate none matrices given := by
  have same : Builder.make given (some registry) = Builder.make given none := by
    simp [Builder.make, Registry.orCatalogue, empty]
  rw [generate, generate, same]

def lone : List Matrix := [⟨.build, [["linux", "amd64"]], ∅⟩]

theorem lone_generates : ∃ pipeline, generate none (some lone) none = .ok pipeline := by
  have succeeds : (jobsByKind (Builder.make none none) lone).isOk = true := rfl
  obtain ⟨groups, built⟩ := isOk_value succeeds
  obtain ⟨origins, found, described⟩ := groups_described built
  have outlines : origins.map outline = [(.build, false, "-linux-amd64")] :=
    Except.ok.inj (congrArg (Except.map (List.map outline)) found).symm
  obtain ⟨jdk, rest, rfl, made, others⟩ := List.map_eq_cons_iff.mp outlines
  obtain rfl := List.map_eq_nil_iff.mp others
  simp only [outline, Prod.mk.injEq] at made
  have sound : Sound (arrange groups) := by
    refine (described_sound described).mpr ⟨⟨?_, ?_, ?_⟩, ?_, ?_⟩
    all_goals simp [made]
  exact ⟨_, (generate_built built).trans (resolve_sound sound)⟩

theorem empty_not_onlySource (empty : registry.isEmpty = true) : ¬registry.OnlySource := by
  intro law
  obtain ⟨pipeline, generated⟩ := lone_generates
  rw [← empty_unnoticed empty] at generated
  have cell : (⟨.build, ["linux", "amd64"], ∅⟩ : Cell) ∈ cellsOf lone := by simp [cellsOf, lone, Matrix.cells]
  have none : registry.names = [] := by
    simpa [Registry.isEmpty, Mapping.isEmpty, Registry.names, Mapping.keys] using empty
  have named : "linux" ∈ registry.names := law.names _ _ _ generated _ cell (by simp)
  rw [none] at named
  cases named

-- The law holds of every registry but one that has no traits at all: for that the
-- catalogue is taken, as if none had been given.
theorem generate_sources (registry : Registry) : (registry.OnlySource ↔ registry.isEmpty = false) ∧
    (registry.isEmpty = true → ∀ matrices given,
      generate (some registry) matrices given = generate none matrices given) := by
  refine ⟨⟨fun law => ?_, filled_onlySource⟩, empty_unnoticed⟩
  by_contra bare
  exact empty_not_onlySource (by simpa using bare) law

theorem bench_sources : bench.isEmpty = false ∧
    (∃ failure, generate (some bench) (some lone) none = .error failure ∧
      Combination.Unknown bench ["linux", "amd64"] failure) ∧
    Registry.catalogue.isEmpty = false ∧
    ∃ pipeline, generate (some Registry.catalogue) (some lone) none = .ok pipeline ∧
      List.Forall₂ (Cell.MadeOf Registry.catalogue {}) (pipelineCells lone) pipeline.jobs := by
  have filled : bench.isEmpty = false := rfl
  have complete : Registry.catalogue.isEmpty = false := rfl
  have law := (generate_sources bench).1.mpr filled
  have also := (generate_sources Registry.catalogue).1.mpr complete
  refine ⟨filled, ?_, complete, ?_⟩
  · have foreign : ¬["linux", "amd64"] ⊆ bench.names := by decide
    obtain ⟨failure, stopped, tells | built | composed⟩ :=
      law.strangers (some lone) none [] _ [] [] ["linux", "amd64"] [] rfl rfl foreign
    · exact ⟨failure, stopped, tells⟩
    · cases built
    · cases composed
  · obtain ⟨pipeline, generated⟩ := lone_generates
    have given : generate (some Registry.catalogue) (some lone) none = .ok pipeline := generated
    exact ⟨pipeline, given, also.jobs (some lone) none pipeline given⟩

theorem bare_registry_served : Registry.empty.names = [] ∧
    (∃ pipeline, generate (some .empty) (some lone) none = .ok pipeline) ∧ ¬Registry.empty.OnlySource := by
  refine ⟨rfl, ?_, empty_not_onlySource rfl⟩
  rw [empty_unnoticed rfl]
  exact lone_generates

end Pipeline
end BuildMatrix
