import BuildMatrix.Proofs.Resolution.Links

namespace BuildMatrix

namespace Pipeline

variable {jobs : List Job} {pipeline : Pipeline} {failure : Failure}

-- The checks one after the other, each with what is left to do after it.

theorem resolve_names (repeated : ¬DistinctNames jobs) :
    resolve jobs = .error (.repeatedJobs (repeatedNames (jobs.map Job.name))) := by
  have told : (!(repeatedNames (jobs.map Job.name)).isEmpty) = true := by
    simpa [repeatedNames_nil, DistinctNames] using repeated
  simp only [resolve, told, if_true]
  rfl

theorem resolve_artifacts (distinct : DistinctNames jobs) (repeated : ¬SingleProducers jobs) :
    ∃ first second, firstRepetition? [] (publicationsOf jobs) = some (first, second) ∧
      resolve jobs = .error (.repeatedArtifact second.artifact first.job second.job) := by
  have none : repeatedNames (jobs.map Job.name) = [] := (repeatedNames_nil _).mpr distinct
  cases found : firstRepetition? [] (publicationsOf jobs) with
  | none => exact False.elim (repeated ((firstRepetition_free jobs).mp found))
  | some uses =>
      refine ⟨uses.1, uses.2, rfl, ?_⟩
      change firstRepetition? [] (jobs.flatMap Job.publications) = _ at found
      simp only [resolve, none, found]
      rfl

theorem resolve_links (distinct : DistinctNames jobs) (single : SingleProducers jobs) :
    resolve jobs = do
      let links ← (requirementsOf jobs).mapM (linkOf (publicationsOf jobs))
      let _ ← Pipeline.levels ⟨jobs, edgesOf links⟩
      return ⟨jobs, edgesOf links⟩ := by
  have none : repeatedNames (jobs.map Job.name) = [] := (repeatedNames_nil _).mpr distinct
  have found := (firstRepetition_free jobs).mpr single
  change firstRepetition? [] (jobs.flatMap Job.publications) = _ at found
  simp only [resolve, none, found]
  rfl

theorem resolve_requirements (distinct : DistinctNames jobs) (single : SingleProducers jobs)
    {requirement : ArtifactUse} (unmet : FirstUnmet jobs requirement) :
    resolve jobs = .error (.unpublishedArtifact requirement.job requirement.artifact
      (jobs.flatMap Job.publishedNames)) := by
  rw [resolve_links distinct single, links_error.mpr ⟨requirement, unmet, rfl⟩]
  rfl

theorem resolve_graph (distinct : DistinctNames jobs) (single : SingleProducers jobs)
    (published : AllPublished jobs) :
    resolve jobs = do
      let _ ← (graphOf jobs).levels
      return graphOf jobs := by
  rw [resolve_links distinct single, (links_ok jobs).mpr ⟨published, rfl⟩]
  rfl

theorem levels_same {second : Pipeline} (names : second.names = pipeline.names) (edges : second.edges = pipeline.edges) :
    second.levels = pipeline.levels := by
  unfold levels edgeEnds
  rw [names, edges]

structure SameShape (jobs others : List Job) (pipeline second : Pipeline) : Prop where
  jobs : pipeline.jobs = jobs
  others : second.jobs = others
  edges : second.edges = pipeline.edges
  stages : ∃ levels, pipeline.levels = .ok levels ∧ second.levels = .ok levels

theorem resolve_declared {others : List Job} (names : others.map Job.name = jobs.map Job.name)
    (publications : publicationsOf others = publicationsOf jobs)
    (requirements : requirementsOf others = requirementsOf jobs) :
    InStep (SameShape jobs others) (resolve jobs) (resolve others) := by
  have distinct : DistinctNames others ↔ DistinctNames jobs := by rw [DistinctNames, DistinctNames, names]
  have single : SingleProducers others ↔ SingleProducers jobs := by
    rw [SingleProducers, SingleProducers, ← publications_artifacts, ← publications_artifacts, publications]
  by_cases apart : DistinctNames jobs
  · by_cases alone : SingleProducers jobs
    · rw [resolve_links apart alone, resolve_links (distinct.mpr apart) (single.mpr alone), publications, requirements]
      refine inStep_after fun links => ?_
      have levels : (⟨others, edgesOf links⟩ : Pipeline).levels = (⟨jobs, edgesOf links⟩ : Pipeline).levels :=
        levels_same names rfl
      rw [levels]
      cases staged : (⟨jobs, edgesOf links⟩ : Pipeline).levels with
      | error failure => exact .fail failure
      | ok stages => exact .succeed ⟨rfl, rfl, rfl, stages, staged, levels.trans staged⟩
    · obtain ⟨first, second, found, failed⟩ := resolve_artifacts apart alone
      obtain ⟨_, _, again, stopped⟩ := resolve_artifacts (distinct.mpr apart) fun free => alone (single.mp free)
      rw [publications, found] at again
      cases again
      rw [failed, stopped]
      exact .fail _
  · rw [resolve_names apart, resolve_names fun free => apart (distinct.mp free), names]
    exact .fail _

inductive FirstFault (jobs : List Job) : FailureKind → Prop where
  | names : ¬DistinctNames jobs → FirstFault jobs .configuration
  | producers : DistinctNames jobs → ¬SingleProducers jobs → FirstFault jobs .duplicateProducer
  | requirements : DistinctNames jobs → SingleProducers jobs → ¬AllPublished jobs →
      FirstFault jobs .unresolvedArtifact
  | cycle : DistinctNames jobs → SingleProducers jobs → AllPublished jobs → ¬CycleFree jobs →
      FirstFault jobs .cyclicDependency

structure Sound (jobs : List Job) : Prop where
  names : DistinctNames jobs
  producers : SingleProducers jobs
  requirements : AllPublished jobs
  cycle : CycleFree jobs

theorem sound_or_fault (jobs : List Job) : Sound jobs ∨ ∃ kind, FirstFault jobs kind := by
  by_cases names : DistinctNames jobs
  · by_cases producers : SingleProducers jobs
    · by_cases requirements : AllPublished jobs
      · by_cases cycle : CycleFree jobs
        · exact .inl ⟨names, producers, requirements, cycle⟩
        · exact .inr ⟨_, .cycle names producers requirements cycle⟩
      · exact .inr ⟨_, .requirements names producers requirements⟩
    · exact .inr ⟨_, .producers names producers⟩
  · exact .inr ⟨_, .names names⟩

theorem resolve_sound (sound : Sound jobs) : resolve jobs = .ok (graphOf jobs) := by
  have acyclic := (acyclic_graph sound.names sound.producers).mpr sound.cycle
  have staged := (levels_ok (graph_known sound.producers)).mpr ⟨acyclic, rfl⟩
  rw [resolve_graph sound.names sound.producers sound.requirements, staged]
  rfl

theorem graph_staged (sound : Sound jobs) :
    ∃ levels, (graphOf jobs).levels = .ok levels ∧ (graphOf jobs).Staged levels := by
  have known := graph_known sound.producers
  have acyclic := (acyclic_graph sound.names sound.producers).mpr sound.cycle
  exact ⟨_, (levels_ok known).mpr ⟨acyclic, rfl⟩, peel_staged known acyclic⟩

theorem resolve_fault {kind : FailureKind} (fault : FirstFault jobs kind) :
    ∃ failure, resolve jobs = .error failure ∧ failure.report.kind = kind := by
  cases fault with
  | names wrong => exact ⟨_, resolve_names wrong, rfl⟩
  | producers names wrong =>
      obtain ⟨_, _, _, failed⟩ := resolve_artifacts names wrong
      exact ⟨_, failed, rfl⟩
  | requirements names producers wrong =>
      obtain ⟨_, unmet⟩ := unmet_exists wrong
      exact ⟨_, resolve_requirements names producers unmet, rfl⟩
  | cycle names producers requirements wrong =>
      rw [resolve_graph names producers requirements]
      cases staged : (graphOf jobs).levels with
      | ok levels =>
          have acyclic := ((levels_ok (graph_known producers)).mp staged).1
          exact False.elim (wrong ((acyclic_graph names producers).mp acyclic))
      | error failure =>
          obtain ⟨_, rfl⟩ := levels_error (graph_known producers) staged
          exact ⟨_, rfl, rfl⟩

theorem resolve_ok : resolve jobs = .ok pipeline ↔ Sound jobs ∧ pipeline = graphOf jobs := by
  constructor
  · intro resolved
    rcases sound_or_fault jobs with sound | ⟨kind, fault⟩
    · rw [resolve_sound sound] at resolved
      exact ⟨sound, (Except.ok.inj resolved).symm⟩
    · obtain ⟨failure, failed, _⟩ := resolve_fault fault
      rw [failed] at resolved
      cases resolved
  · rintro ⟨sound, rfl⟩
    exact resolve_sound sound

theorem resolve_error (failed : resolve jobs = .error failure) : FirstFault jobs failure.report.kind := by
  rcases sound_or_fault jobs with sound | ⟨kind, fault⟩
  · rw [resolve_sound sound] at failed
    cases failed
  · obtain ⟨other, found, rfl⟩ := resolve_fault fault
    rw [found] at failed
    cases failed
    exact fault

-- Dependencies are found exactly for lists of jobs that are sound in all four
-- respects, and what is refused is refused for the first of them that fails.
theorem resolve_exact (jobs : List Job) :
    ((∃ pipeline, resolve jobs = .ok pipeline) ↔
      DistinctNames jobs ∧ SingleProducers jobs ∧ AllPublished jobs ∧ CycleFree jobs) ∧
    (∀ kind, (∃ failure, resolve jobs = .error failure ∧ failure.report.kind = kind) ↔ FirstFault jobs kind) ∧
    ∀ pipeline, resolve jobs = .ok pipeline → pipeline.jobs = jobs := by
  refine ⟨?_, ?_, ?_⟩
  · constructor
    · rintro ⟨pipeline, resolved⟩
      obtain ⟨names, producers, requirements, cycle⟩ := (resolve_ok.mp resolved).1
      exact ⟨names, producers, requirements, cycle⟩
    · rintro ⟨names, producers, requirements, cycle⟩
      exact ⟨_, resolve_sound ⟨names, producers, requirements, cycle⟩⟩
  · intro kind
    constructor
    · rintro ⟨failure, failed, rfl⟩
      exact resolve_error failed
    · exact resolve_fault
  · intro pipeline resolved
    rw [(resolve_ok.mp resolved).2]
    rfl

-- A job that requires what it publishes waits for itself.
example : resolve [.declaring "a" ["x"] ["x"]] = .error (.cyclic ["a"]) := by cbv

end Pipeline
end BuildMatrix
