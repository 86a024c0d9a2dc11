import BuildMatrix.Proofs.Generation.Refusals
import BuildMatrix.Proofs.Generation.Suffixes
import BuildMatrix.Proofs.Resolution.Outcome

namespace BuildMatrix

namespace Pipeline

variable {builder : Builder} {origins : List Origin} {jobs : List Job}

theorem distinct_apart (described : List.Forall₂ Origin.Describes origins jobs) :
    DistinctNames jobs ↔ Origin.Apart origins := by
  rw [Origin.apart_names, ← related_map (fun _ _ each => each.name) described]
  rfl

theorem distinct_single (described : List.Forall₂ Origin.Describes origins jobs)
    (distinct : DistinctNames jobs) : SingleProducers jobs := by
  have apart := Origin.apart_names.mp ((distinct_apart described).mp distinct)
  unfold SingleProducers
  rw [List.flatMap_def, related_map (fun _ _ each => each.published) described, ← List.flatMap_def]
  exact Origin.published_single apart

theorem published_supplied (described : List.Forall₂ Origin.Describes origins jobs) :
    AllPublished jobs ↔ Origin.Supplied origins := by
  rw [Origin.supplied_artifacts]
  constructor
  · intro published origin present artifact needed
    obtain ⟨job, held, describes⟩ := related_left described present
    obtain ⟨producer, there, made⟩ := published job held artifact (describes.required ▸ needed)
    obtain ⟨source, listed, tells⟩ := related_right described there
    exact ⟨source, listed, tells.published ▸ made⟩
  · intro supplied job held artifact needed
    obtain ⟨origin, present, describes⟩ := related_right described held
    obtain ⟨source, listed, made⟩ := supplied origin present artifact (describes.required ▸ needed)
    obtain ⟨producer, there, tells⟩ := related_left described listed
    exact ⟨producer, there, tells.published ▸ made⟩

-- Artifacts only ever flow from a lower tier to a higher one.
def tierOf (job : Job) : Nat := ((JobKind.ofWord? job.kind).map JobKind.tier).getD 0

theorem tierOf_origin {origin : Origin} {job : Job} (describes : origin.Describes job) :
    tierOf job = origin.kind.tier := by
  simp [tierOf, describes.kind, JobKind.ofWord?_word]

theorem feeds_origins (described : List.Forall₂ Origin.Describes origins jobs) {producer consumer : Job}
    (fed : Feeds jobs producer consumer) : ∃ source ∈ origins, ∃ origin ∈ origins,
      source.Describes producer ∧ origin.Describes consumer ∧ source.suffix = origin.suffix ∧
        ∃ word ∈ source.offers, word ∈ origin.kind.needs := by
  obtain ⟨there, held, artifact, made, needed⟩ := fed
  obtain ⟨source, listed, tells⟩ := related_right described there
  obtain ⟨origin, present, describes⟩ := related_right described held
  rw [tells.published] at made
  rw [describes.required] at needed
  exact ⟨source, listed, origin, present, tells, describes, Origin.exchanged made needed⟩

theorem described_rises (described : List.Forall₂ Origin.Describes origins jobs) {producer consumer : Job}
    (fed : Feeds jobs producer consumer) : tierOf producer < tierOf consumer := by
  obtain ⟨source, _, origin, _, tells, describes, _, word, offered, needed⟩ := feeds_origins described fed
  rw [tierOf_origin tells, tierOf_origin describes]
  exact Origin.offers_before offered needed

theorem described_cycleFree (described : List.Forall₂ Origin.Describes origins jobs) : CycleFree jobs :=
  cycleFree_of_rank tierOf fun _ _ fed => described_rises described fed

theorem described_sound (described : List.Forall₂ Origin.Describes origins jobs) :
    Sound jobs ↔ Origin.Apart origins ∧ Origin.Supplied origins := by
  constructor
  · intro sound
    exact ⟨(distinct_apart described).mp sound.names, (published_supplied described).mp sound.requirements⟩
  · rintro ⟨apart, supplied⟩
    have distinct := (distinct_apart described).mpr apart
    exact ⟨distinct, distinct_single described distinct, (published_supplied described).mpr supplied,
      described_cycleFree described⟩

theorem described_fault (described : List.Forall₂ Origin.Describes origins jobs) {kind : FailureKind}
    (fault : FirstFault jobs kind) : kind = .configuration ∨ kind = .unresolvedArtifact := by
  cases fault with
  | names => exact .inl rfl
  | producers distinct wrong => exact False.elim (wrong (distinct_single described distinct))
  | requirements => exact .inr rfl
  | cycle _ _ _ wrong => exact False.elim (wrong (described_cycleFree described))

theorem generate_built {registry : Option Registry} {matrices : Option (List Matrix)}
    {settings : Option Settings} {groups : List (JobKind × List Job)}
    (built : jobsByKind (Builder.make settings registry) (matrices.getD Matrix.defaults) = .ok groups) :
    generate registry matrices settings = resolve (arrange groups) := by
  simp only [generate, built]
  rfl

theorem generate_ok {registry : Option Registry} {matrices : Option (List Matrix)} {settings : Option Settings}
    {pipeline : Pipeline} (generated : generate registry matrices settings = .ok pipeline) :
    ∃ groups, jobsByKind (Builder.make settings registry) (matrices.getD Matrix.defaults) = .ok groups ∧
      Sound (arrange groups) ∧ pipeline = graphOf (arrange groups) := by
  obtain ⟨groups, built, resolved⟩ := bind_ok.mp generated
  exact ⟨groups, built, resolve_ok.mp resolved⟩

theorem groups_described {matrices : List Matrix} {groups : List (JobKind × List Job)}
    (built : jobsByKind builder matrices = .ok groups) :
    ∃ origins, (pipelineCells matrices).mapM (Cell.origin builder) = .ok origins ∧
      List.Forall₂ Origin.Describes origins (arrange groups) :=
  yields_origins (jobsByKind_ok.mp ⟨groups, built, rfl⟩)

-- Once every job is built, only suffixes and labels decide: whether jobs that
-- open alike are kept apart, and whether each finds the builds it needs. The
-- other two verdicts on artifacts are never reached.
theorem generate_exact (registry : Option Registry) (matrices : Option (List Matrix))
    (settings : Option Settings) :
    (∀ groups, jobsByKind (Builder.make settings registry) (matrices.getD Matrix.defaults) = .ok groups →
      ∃ origins,
        (pipelineCells (matrices.getD Matrix.defaults)).mapM (Cell.origin (Builder.make settings registry)) =
          .ok origins ∧
        List.Forall₂ Origin.Describes origins (arrange groups) ∧
        ((∃ pipeline, generate registry matrices settings = .ok pipeline) ↔
          Origin.Apart origins ∧ Origin.Supplied origins) ∧
        (¬Origin.Apart origins → ∃ failure, generate registry matrices settings = .error failure ∧
          failure.report.kind = .configuration) ∧
        (Origin.Apart origins → ¬Origin.Supplied origins →
          ∃ failure, generate registry matrices settings = .error failure ∧
            failure.report.kind = .unresolvedArtifact)) ∧
    ∀ failure, generate registry matrices settings = .error failure →
      failure.report.kind ≠ .duplicateProducer ∧ failure.report.kind ≠ .cyclicDependency := by
  refine ⟨?_, ?_⟩
  · intro groups built
    obtain ⟨origins, found, described⟩ := groups_described built
    rw [generate_built built]
    refine ⟨origins, found, described, ?_, ?_, ?_⟩
    · rw [← described_sound described]
      constructor
      · rintro ⟨pipeline, resolved⟩
        exact (resolve_ok.mp resolved).1
      · intro sound
        exact ⟨_, resolve_sound sound⟩
    · intro clash
      exact resolve_fault (.names fun distinct => clash ((distinct_apart described).mp distinct))
    · intro apart missing
      have distinct := (distinct_apart described).mpr apart
      exact resolve_fault (.requirements distinct (distinct_single described distinct)
        fun published => missing ((published_supplied described).mp published))
  · intro failure failed
    rcases bind_error.mp failed with unbuilt | ⟨groups, built, unresolved⟩
    · have way := jobsByKind_refuses _ _ failure unbuilt
      simp only [OfBuilding, List.mem_cons, List.not_mem_nil, or_false] at way
      rcases way with kind | kind | kind <;> simp [kind]
    · obtain ⟨origins, _, described⟩ := groups_described built
      rcases described_fault described (resolve_error unresolved) with kind | kind <;> simp [kind]

-- One machine, and the traits of the JDK without any contents.
def bench : Registry where
  traits := .ofList [
    ("here", { label := "here", name := "-here", os := some .linux, arch := some "amd64" }),
    ("boot-jdk", {}), ("jtreg", {}), ("build-packages", {})]
  base := []
  base_known := by simp

def benchMatrices : List Matrix := [⟨.compilerTest, [["here"]], ∅⟩, ⟨.build, [["here"]], ∅⟩]

def outline (origin : Origin) : JobKind × Bool × String := (origin.kind, origin.musl, origin.suffix)

theorem bench_generates :
    (∃ groups, jobsByKind (Builder.make none (some bench)) benchMatrices = .ok groups) ∧
      ∃ pipeline, generate (some bench) (some benchMatrices) none = .ok pipeline := by
  cases built : jobsByKind (Builder.make none (some bench)) benchMatrices with
  | error failure =>
      have succeeds : (jobsByKind (Builder.make none (some bench)) benchMatrices).isOk = true := rfl
      rw [built] at succeeds
      cases succeeds
  | ok groups =>
      obtain ⟨origins, found, _, exact, _⟩ := (generate_exact (some bench) (some benchMatrices) none).1 groups built
      refine ⟨⟨groups, rfl⟩, exact.mpr ?_⟩
      have outlines : origins.map outline = [(.build, false, "-here"), (.compilerTest, false, "-here")] :=
        Except.ok.inj (congrArg (Except.map (List.map outline)) found).symm
      obtain ⟨jdk, rest, rfl, made, others⟩ := List.map_eq_cons_iff.mp outlines
      obtain ⟨test, _, rfl, tested, none⟩ := List.map_eq_cons_iff.mp others
      obtain rfl := List.map_eq_nil_iff.mp none
      simp only [outline, Prod.mk.injEq] at made tested
      refine ⟨⟨?_, ?_, ?_⟩, ?_, ?_⟩
      all_goals simp [made, tested]

-- Two machines of the catalogue and a musl build that nothing waits for.
def trial : List Matrix := [
  ⟨.libgraalTest, [["linux", "amd64"]], ∅⟩,
  ⟨.libgraalBuild, [["linux", "amd64"]], ∅⟩,
  ⟨.compilerTest, [["darwin", "aarch64"]], ∅⟩,
  ⟨.muslBuild, [["linux-musl", "amd64-musl"]], ∅⟩,
  ⟨.build, [["linux", "amd64"], ["darwin", "aarch64"]], ∅⟩]

theorem trial_generates : ∃ groups, jobsByKind (Builder.make none none) trial = .ok groups ∧
    generate none (some trial) none = .ok (graphOf (arrange groups)) := by
  have succeeds : (jobsByKind (Builder.make none none) trial).isOk = true := rfl
  obtain ⟨groups, built⟩ := isOk_value succeeds
  obtain ⟨origins, _, described⟩ := groups_described built
  have names : (arrange groups).map Job.name = ["build-jdk-linux-amd64", "build-jdk-darwin-aarch64",
      "test-compiler-darwin-aarch64", "build-libgraal-linux-amd64", "test-libgraal-linux-amd64",
      "build-jdk-linux-amd64-musl"] :=
    Except.ok.inj (congrArg (Except.map fun groups => (arrange groups).map Job.name) built).symm
  have offers : (arrange groups).flatMap Job.publishedNames = ["labsjdk-linux-amd64", "labsjdk-darwin-aarch64",
      "graal-commit-linux-amd64", "libgraal-linux-amd64"] :=
    Except.ok.inj (congrArg (Except.map fun groups => (arrange groups).flatMap Job.publishedNames) built).symm
  have needs : (arrange groups).flatMap Job.requiredNames = ["labsjdk-darwin-aarch64", "labsjdk-linux-amd64",
      "labsjdk-linux-amd64", "graal-commit-linux-amd64", "libgraal-linux-amd64"] :=
    Except.ok.inj (congrArg (Except.map fun groups => (arrange groups).flatMap Job.requiredNames) built).symm
  have distinct : DistinctNames (arrange groups) := by
    rw [DistinctNames, names]
    decide
  have fulfilled : ∀ artifact ∈ (arrange groups).flatMap Job.requiredNames,
      artifact ∈ (arrange groups).flatMap Job.publishedNames := by
    rw [needs, offers]
    decide
  have published : AllPublished (arrange groups) := fun job held artifact required =>
    List.mem_flatMap.mp (fulfilled artifact (List.mem_flatMap.mpr ⟨job, held, required⟩))
  have sound : Sound (arrange groups) :=
    ⟨distinct, distinct_single described distinct, published, described_cycleFree described⟩
  exact ⟨groups, built, (generate_built built).trans (resolve_sound sound)⟩

end Pipeline
end BuildMatrix
