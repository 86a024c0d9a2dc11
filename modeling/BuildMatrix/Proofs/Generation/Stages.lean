import BuildMatrix.Proofs.Generation.Outcome
import BuildMatrix.Proofs.Resolution.Edges

namespace BuildMatrix

namespace JobKind

-- Kinds that wait for nothing, those that wait for a JDK, and the one that also
-- waits for what was built on it.
def stages : List (List JobKind) :=
  [[.build, .muslBuild], [.compilerTest, .jsTest, .libgraalBuild, .runOnly], [.libgraalTest]]

theorem mem_stages (kind : JobKind) (number : Nat) :
    kind.word ∈ (stages.getD number []).map word ↔ kind.tier = number := by
  match number with
  | 0 | 1 | 2 => cases kind <;> decide
  | number + 3 =>
      have low : kind.tier < 3 := by cases kind <;> decide
      have beyond : stages.getD (number + 3) [] = [] := rfl
      rw [beyond]
      simp only [List.map_nil, List.not_mem_nil, false_iff]
      omega

theorem needs_nothing {kind : JobKind} (first : kind ∈ [build, muslBuild]) : kind.needs = [] := by
  revert first
  cases kind <;> decide

theorem needs_jdk {kind : JobKind} (middle : kind ∈ [compilerTest, jsTest, libgraalBuild, runOnly]) :
    kind.needs = ["labsjdk"] ∧ kind ∈ [compilerTest, jsTest, libgraalBuild, libgraalTest, runOnly] := by
  revert middle
  cases kind <;> decide

theorem tier_low (kind : JobKind) : kind.tier < stages.length := by
  cases kind <;> decide

end JobKind

def stageNames (jobs : List Job) (kinds : List JobKind) : List String :=
  (jobs.filter fun job => (kinds.map JobKind.word).contains job.kind).map Job.name

def stagesByKind (jobs : List Job) : List (List String) :=
  (JobKind.stages.map (stageNames jobs)).filter fun stage => !stage.isEmpty

def MadeAs (origins : List Origin) (kind : JobKind) (suffix : String) (job : Job) : Prop :=
  ∃ source ∈ origins, source.Describes job ∧ source.kind = kind ∧ source.suffix = suffix

structure Awaits (pipeline : Pipeline) (origins : List Origin) (origin : Origin) (job : Job) : Prop where
  nothing : origin.kind ∈ [JobKind.build, .muslBuild] → pipeline.dependenciesOf job.name = []
  jdk : origin.kind ∈ [JobKind.compilerTest, .jsTest, .libgraalBuild, .runOnly] →
    ∃ jdk ∈ pipeline.jobs, MadeAs origins .build origin.suffix jdk ∧
      pipeline.dependenciesOf job.name = [jdk.name]
  both : origin.kind = .libgraalTest →
    ∃ jdk ∈ pipeline.jobs, ∃ image ∈ pipeline.jobs, MadeAs origins .build origin.suffix jdk ∧
      MadeAs origins .libgraalBuild origin.suffix image ∧
      pipeline.dependenciesOf job.name = [jdk.name, image.name]

namespace Pipeline

variable {origins : List Origin} {origin source : Origin} {jobs : List Job} {job : Job} {word : String}

theorem source_job (described : List.Forall₂ Origin.Describes origins jobs) (listed : source ∈ origins) :
    ∃ producer ∈ jobs, MadeAs origins source.kind source.suffix producer ∧
      ∀ word ∈ source.offers, word ++ source.suffix ∈ producer.publishedNames := by
  obtain ⟨producer, there, tells⟩ := related_left described listed
  refine ⟨producer, there, ⟨source, listed, tells, rfl, rfl⟩, ?_⟩
  intro word offered
  rw [tells.published]
  exact List.mem_map_of_mem offered

theorem jdk_job (described : List.Forall₂ Origin.Describes origins jobs) (supplied : Origin.Supplied origins)
    (listed : origin ∈ origins)
    (kinds : origin.kind ∈ [JobKind.compilerTest, .jsTest, .libgraalBuild, .libgraalTest, .runOnly]) :
    ∃ jdk ∈ jobs, MadeAs origins .build origin.suffix jdk ∧ "labsjdk" ++ origin.suffix ∈ jdk.publishedNames := by
  obtain ⟨source, held, made, glibc, same⟩ := supplied.jdk origin listed kinds
  obtain ⟨jdk, there, madeAs, published⟩ := source_job described held
  rw [made, same] at madeAs
  rw [same] at published
  exact ⟨jdk, there, madeAs, published _ (Origin.mem_offers.mpr (.inl ⟨made, glibc, rfl⟩))⟩

theorem image_job (described : List.Forall₂ Origin.Describes origins jobs) (supplied : Origin.Supplied origins)
    (listed : origin ∈ origins) (kind : origin.kind = .libgraalTest) :
    ∃ image ∈ jobs, MadeAs origins .libgraalBuild origin.suffix image ∧
      "graal-commit" ++ origin.suffix ∈ image.publishedNames ∧ "libgraal" ++ origin.suffix ∈ image.publishedNames := by
  obtain ⟨source, held, made, same⟩ := supplied.libgraal origin listed kind
  obtain ⟨image, there, madeAs, published⟩ := source_job described held
  rw [made, same] at madeAs
  rw [same] at published
  exact ⟨image, there, madeAs, published _ (Origin.mem_offers.mpr (.inr ⟨made, .inl rfl⟩)),
    published _ (Origin.mem_offers.mpr (.inr ⟨made, .inr rfl⟩))⟩

theorem madeAs_tier {kind : JobKind} {suffix : String} (made : MadeAs origins kind suffix job) :
    tierOf job = kind.tier := by
  obtain ⟨source, _, tells, rfl, _⟩ := made
  exact tierOf_origin tells

theorem madeAs_apart {one other : JobKind} {suffix rest : String} {first second : Job}
    (made : MadeAs origins one suffix first) (also : MadeAs origins other rest second)
    (apart : one.family ≠ other.family) : first.name ≠ second.name := by
  obtain ⟨source, _, tells, rfl, _⟩ := made
  obtain ⟨further, _, describes, rfl, _⟩ := also
  rw [tells.name, describes.name]
  exact fun same => apart ((Origin.jobName_same _ _).mp same).1

theorem described_needs (describes : origin.Describes job) (needed : word ∈ origin.kind.needs) :
    word ++ origin.suffix ∈ job.requiredNames := by
  rw [describes.required]
  exact List.mem_map_of_mem needed

theorem described_below (described : List.Forall₂ Origin.Describes origins jobs) (supplied : Origin.Supplied origins)
    (present : job ∈ jobs) {step : Nat} (tier : tierOf job = step + 1) :
    ∃ producer, Feeds jobs producer job ∧ tierOf producer = step := by
  obtain ⟨origin, listed, describes⟩ := related_right described present
  rw [tierOf_origin describes] at tier
  have after : origin.kind ∈ [JobKind.compilerTest, .jsTest, .libgraalBuild, .runOnly] →
      ∃ producer, Feeds jobs producer job ∧ tierOf producer = 0 := by
    intro middle
    have kinds := (JobKind.needs_jdk middle).2
    obtain ⟨jdk, there, made, published⟩ := jdk_job described supplied listed kinds
    have needed := described_needs describes (JobKind.mem_needs.mpr (.inl ⟨rfl, kinds⟩))
    exact ⟨jdk, ⟨there, present, _, published, needed⟩, madeAs_tier made⟩
  cases kind : origin.kind with
  | build | muslBuild => simp [kind, JobKind.tier] at tier
  | compilerTest | jsTest | libgraalBuild | runOnly =>
      obtain rfl : step = 0 := by simpa [kind, JobKind.tier] using tier
      exact after (by rw [kind]; decide)
  | libgraalTest =>
      obtain rfl : step = 1 := by simpa [kind, JobKind.tier] using tier
      obtain ⟨image, there, made, published, _⟩ := image_job described supplied listed kind
      have needed := described_needs describes (JobKind.mem_needs.mpr (.inr ⟨.inl rfl, kind⟩))
      exact ⟨image, ⟨there, present, _, published, needed⟩, madeAs_tier made⟩

theorem stage_names (described : List.Forall₂ Origin.Describes origins jobs) (number : Nat) :
    stageNames jobs (JobKind.stages.getD number []) =
      (jobs.filter fun job => tierOf job = number).map Job.name := by
  unfold stageNames
  congr 1
  refine List.filter_congr ?_
  intro job present
  obtain ⟨origin, _, describes⟩ := related_right described present
  rw [Bool.eq_iff_iff, List.contains_iff_mem, describes.kind, JobKind.mem_stages, decide_eq_true_eq,
    tierOf_origin describes]

theorem described_levels (described : List.Forall₂ Origin.Describes origins jobs) (sound : Sound jobs) :
    (graphOf jobs).levels = .ok (stagesByKind jobs) := by
  have supplied := (published_supplied described).mp sound.requirements
  have longest : ∀ job ∈ jobs, LongestChain (graphOf jobs).edges (tierOf job) job.name :=
    fun job present => longest_ranked sound.names sound.producers tierOf (fun _ _ => described_rises described)
      (fun _ held _ tier => described_below described supplied held tier) present
  have bound : ∀ job ∈ jobs, tierOf job < JobKind.stages.length := by
    intro job present
    obtain ⟨origin, _, describes⟩ := related_right described present
    rw [tierOf_origin describes]
    exact JobKind.tier_low _
  have acyclic := (acyclic_graph sound.names sound.producers).mpr sound.cycle
  rw [levels_ranked (graph_known sound.producers) sound.names acyclic longest bound]
  change Except.ok (List.filter _ ((List.range 3).map fun number =>
    (jobs.filter fun job => tierOf job = number).map Job.name)) = _
  simp only [← stage_names described]
  rfl

theorem graph_waits (sound : Sound jobs) (present : job ∈ jobs) (describes : origin.Describes job) {producers : List String}
    (found : origin.kind.needs.map (fun word => producerOf? (publicationsOf jobs) (word ++ origin.suffix)) =
      producers.map some) : (graphOf jobs).dependenciesOf job.name = producers.eraseDups := by
  refine graph_dependencies sound present ?_
  rw [describes.required, Origin.required, List.map_map]
  exact found

theorem described_awaits (described : List.Forall₂ Origin.Describes origins jobs) (sound : Sound jobs)
    (listed : origin ∈ origins) (present : job ∈ jobs) (describes : origin.Describes job) :
    Awaits (graphOf jobs) origins origin job := by
  have supplied := (published_supplied described).mp sound.requirements
  constructor
  · intro first
    have waits : (graphOf jobs).dependenciesOf job.name = ([] : List String).eraseDups := by
      refine graph_waits sound present describes ?_
      rw [JobKind.needs_nothing first]
      rfl
    exact waits
  · intro middle
    obtain ⟨needs, kinds⟩ := JobKind.needs_jdk middle
    obtain ⟨jdk, there, made, published⟩ := jdk_job described supplied listed kinds
    have waits : (graphOf jobs).dependenciesOf job.name = [jdk.name].eraseDups := by
      refine graph_waits sound present describes ?_
      rw [needs, List.map_singleton, (producer_published sound there _).mpr published]
      rfl
    exact ⟨jdk, there, made, waits⟩
  · intro kind
    obtain ⟨jdk, there, made, published⟩ := jdk_job described supplied listed (by rw [kind]; decide)
    obtain ⟨image, held, also, commit, library⟩ := image_job described supplied listed kind
    have apart : jdk.name ≠ image.name := madeAs_apart made also (by decide)
    -- The image is asked for twice, by its commit and by itself.
    have waits : (graphOf jobs).dependenciesOf job.name = [jdk.name, image.name, image.name].eraseDups := by
      refine graph_waits sound present describes ?_
      simp [kind, JobKind.needs, (producer_published sound there _).mpr published,
        (producer_published sound held _).mpr commit, (producer_published sound held _).mpr library]
    refine ⟨jdk, there, image, held, made, also, ?_⟩
    simpa [List.eraseDups_cons, apart.symm] using waits

-- The stages go by the kinds, whatever is configured. Jobs of the first stage
-- wait for nothing, those of the second for the JDK of their suffix, those of
-- the third for that JDK and for what was built on it.
theorem generate_stages (registry : Option Registry) (matrices : Option (List Matrix)) (settings : Option Settings)
    (pipeline : Pipeline) (generated : generate registry matrices settings = .ok pipeline) :
    pipeline.levels = .ok (stagesByKind pipeline.jobs) ∧ (stagesByKind pipeline.jobs).length ≤ 3 ∧
    ∃ origins,
      (pipelineCells (matrices.getD Matrix.defaults)).mapM (Cell.origin (Builder.make settings registry)) =
        .ok origins ∧
      List.Forall₂ Origin.Describes origins pipeline.jobs ∧
      ∀ origin ∈ origins, ∀ job ∈ pipeline.jobs, origin.Describes job → Awaits pipeline origins origin job := by
  obtain ⟨groups, built, sound, rfl⟩ := generate_ok generated
  obtain ⟨origins, found, described⟩ := groups_described built
  refine ⟨described_levels described sound, List.length_filter_le _ _, origins, found, described, ?_⟩
  intro origin listed job present describes
  exact described_awaits described sound listed present describes

theorem trial_stages : ∃ pipeline, generate none (some trial) none = .ok pipeline ∧
    pipeline.levels = .ok [
      ["build-jdk-linux-amd64", "build-jdk-darwin-aarch64", "build-jdk-linux-amd64-musl"],
      ["test-compiler-darwin-aarch64", "build-libgraal-linux-amd64"],
      ["test-libgraal-linux-amd64"]] ∧
    ∃ origins, (pipelineCells trial).mapM (Cell.origin (Builder.make none none)) = .ok origins ∧
      List.Forall₂ Origin.Describes origins pipeline.jobs ∧
      ∀ origin ∈ origins, ∀ job ∈ pipeline.jobs, origin.Describes job → Awaits pipeline origins origin job := by
  obtain ⟨groups, built, generated⟩ := trial_generates
  obtain ⟨levels, _, origins, made⟩ := generate_stages none (some trial) none _ generated
  refine ⟨_, generated, levels.trans ?_, origins, made⟩
  exact (congrArg (Except.map fun groups => stagesByKind (arrange groups)) built).symm

end Pipeline

end BuildMatrix
