import BuildMatrix.Pipeline.Resolve
import Mathlib.Data.List.Count
import Mathlib.Data.List.Nodup
import Mathlib.Logic.Relation

namespace BuildMatrix

namespace Job

def publishedNames (job : Job) : List String := job.publishes.map PublishedArtifact.name
def requiredNames (job : Job) : List String := job.requires.map RequiredArtifact.name

theorem publications_eq (job : Job) : job.publications = job.publishedNames.map fun name => ⟨name, job.name⟩ := by
  simp [publications, publishedNames, Function.comp_def]

theorem requirements_eq (job : Job) : job.requirements = job.requiredNames.map fun name => ⟨name, job.name⟩ := by
  simp [requirements, requiredNames, Function.comp_def]

end Job

-- What is asked of a list of jobs as a whole. Nothing here speaks of edges.

def DistinctNames (jobs : List Job) : Prop := (jobs.map Job.name).Nodup

-- A job that declares an artifact twice counts as two producers.
def SingleProducers (jobs : List Job) : Prop := (jobs.flatMap Job.publishedNames).Nodup

def AllPublished (jobs : List Job) : Prop :=
  ∀ job ∈ jobs, ∀ artifact ∈ job.requiredNames, ∃ producer ∈ jobs, artifact ∈ producer.publishedNames

def Feeds (jobs : List Job) (producer consumer : Job) : Prop :=
  producer ∈ jobs ∧ consumer ∈ jobs ∧
    ∃ artifact, artifact ∈ producer.publishedNames ∧ artifact ∈ consumer.requiredNames

def CycleFree (jobs : List Job) : Prop := ∀ job, ¬Relation.TransGen (Feeds jobs) job job

variable {jobs : List Job}

theorem same_job (distinct : DistinctNames jobs) {one other : Job} (first : one ∈ jobs) (second : other ∈ jobs)
    (same : one.name = other.name) : one = other :=
  List.inj_on_of_nodup_map distinct first second same

theorem part_filter {part : List Job} (within : part.Sublist jobs) (distinct : DistinctNames jobs) :
    jobs.filter (fun job => (part.map Job.name).contains job.name) = part := by
  induction within with
  | slnil => rfl
  | @cons part jobs job within ih =>
      obtain ⟨fresh, distinct⟩ := List.nodup_cons.mp distinct
      have absent : job.name ∉ part.map Job.name := fun held => fresh ((within.map Job.name).subset held)
      rw [List.filter_cons_of_neg (by simpa using absent), ih distinct]
  | @cons_cons part jobs job within ih =>
      obtain ⟨fresh, distinct⟩ := List.nodup_cons.mp distinct
      rw [List.filter_cons_of_pos (by simp)]
      congr 1
      refine (List.filter_congr ?_).trans (ih distinct)
      intro later held
      have apart : later.name ≠ job.name := fun same => fresh (same ▸ List.mem_map_of_mem held)
      simp [apart]

theorem cycleFree_of_rank (rank : Job → Nat)
    (rises : ∀ producer consumer, Feeds jobs producer consumer → rank producer < rank consumer) :
    CycleFree jobs := by
  have climbs : ∀ producer consumer, Relation.TransGen (Feeds jobs) producer consumer →
      rank producer < rank consumer := by
    intro producer consumer path
    induction path with
    | single step => exact rises _ _ step
    | tail _ step ih => exact Nat.lt_trans ih (rises _ _ step)
  intro job path
  exact Nat.lt_irrefl _ (climbs job job path)

def publicationsOf (jobs : List Job) : List ArtifactUse := jobs.flatMap Job.publications
def requirementsOf (jobs : List Job) : List ArtifactUse := jobs.flatMap Job.requirements

theorem publications_artifacts (jobs : List Job) :
    (publicationsOf jobs).map ArtifactUse.artifact = jobs.flatMap Job.publishedNames := by
  simp [publicationsOf, List.map_flatMap, Job.publications_eq, Function.comp_def]

theorem mem_publications {use : ArtifactUse} : use ∈ publicationsOf jobs ↔
    ∃ job ∈ jobs, job.name = use.job ∧ use.artifact ∈ job.publishedNames := by
  obtain ⟨artifact, name⟩ := use
  simp only [publicationsOf, List.mem_flatMap, Job.publications_eq, List.mem_map, ArtifactUse.mk.injEq]
  constructor
  · rintro ⟨job, present, _, published, rfl, rfl⟩
    exact ⟨job, present, rfl, published⟩
  · rintro ⟨job, present, rfl, published⟩
    exact ⟨job, present, artifact, published, rfl, rfl⟩

theorem mem_requirements {use : ArtifactUse} : use ∈ requirementsOf jobs ↔
    ∃ job ∈ jobs, job.name = use.job ∧ use.artifact ∈ job.requiredNames := by
  obtain ⟨artifact, name⟩ := use
  simp only [requirementsOf, List.mem_flatMap, Job.requirements_eq, List.mem_map, ArtifactUse.mk.injEq]
  constructor
  · rintro ⟨job, present, _, required, rfl, rfl⟩
    exact ⟨job, present, rfl, required⟩
  · rintro ⟨job, present, rfl, required⟩
    exact ⟨job, present, artifact, required, rfl, rfl⟩

theorem repeatedNames_nil (names : List String) : repeatedNames names = [] ↔ names.Nodup := by
  have sorted : repeatedNames names = [] ↔
      (names.filter fun name => decide (1 < names.count name)).eraseDups = [] := by
    unfold repeatedNames
    rw [← List.length_eq_zero_iff, List.length_mergeSort, List.length_eq_zero_iff]
  rw [sorted, List.eq_nil_iff_forall_not_mem, List.nodup_iff_count_le_one]
  constructor
  · intro none name
    apply Nat.le_of_not_lt
    intro twice
    have present : name ∈ names := List.count_pos_iff.mp (by omega)
    exact none name (List.mem_eraseDups.mpr (List.mem_filter.mpr ⟨present, by simpa using twice⟩))
  · intro once name listed
    have twice := (List.mem_filter.mp (List.mem_eraseDups.mp listed)).2
    have bound := once name
    have more : 1 < names.count name := by simpa using twice
    omega

-- The scan has found no artifact twice, neither among the publications to come
-- nor between them and those gone by.
theorem firstRepetition?_none (earlier uses : List ArtifactUse) : firstRepetition? earlier uses = none ↔
    (uses.map ArtifactUse.artifact).Nodup ∧
      ∀ use ∈ uses, ∀ before ∈ earlier, before.artifact ≠ use.artifact := by
  induction uses generalizing earlier with
  | nil => simp [firstRepetition?]
  | cons use rest ih =>
      unfold firstRepetition?
      cases found : earlier.find? fun before => before.artifact == use.artifact with
      | some before =>
          have same : before.artifact = use.artifact := by simpa using List.find?_some found
          simp only [reduceCtorEq, false_iff, not_and]
          intro _ apart
          exact apart use (by simp) before (List.mem_of_find?_eq_some found) same
      | none =>
          have fresh : ∀ before ∈ earlier, before.artifact ≠ use.artifact := by
            intro before present
            simpa using List.find?_eq_none.mp found before present
          simp only [ih, List.map_cons, List.nodup_cons, List.mem_map, List.forall_mem_cons]
          constructor
          · rintro ⟨distinct, apart⟩
            refine ⟨⟨?_, distinct⟩, fresh, ?_⟩
            · rintro ⟨later, present, same⟩
              exact apart later present use (by simp) same.symm
            · intro later present before gone
              exact apart later present before (List.mem_append_left _ gone)
          · rintro ⟨⟨new, distinct⟩, _, apart⟩
            refine ⟨distinct, ?_⟩
            intro later present before gone
            rcases List.mem_append.mp gone with old | last
            · exact apart later present before old
            · rw [List.mem_singleton.mp last]
              intro same
              exact new ⟨later, present, same.symm⟩

theorem firstRepetition_free (jobs : List Job) :
    firstRepetition? [] (publicationsOf jobs) = none ↔ SingleProducers jobs := by
  rw [firstRepetition?_none, publications_artifacts]
  simp [SingleProducers]

theorem producerOf_none {publications : List ArtifactUse} {artifact : String} :
    producerOf? publications artifact = none ↔ artifact ∉ publications.map ArtifactUse.artifact := by
  simp [producerOf?]

theorem producerOf_some (single : SingleProducers jobs) {artifact name : String} :
    producerOf? (publicationsOf jobs) artifact = some name ↔
      ∃ job ∈ jobs, job.name = name ∧ artifact ∈ job.publishedNames := by
  have listed : (⟨artifact, name⟩ : ArtifactUse) ∈ publicationsOf jobs ↔
      ∃ job ∈ jobs, job.name = name ∧ artifact ∈ job.publishedNames := mem_publications
  rw [← listed]
  constructor
  · intro found
    obtain ⟨use, held, rfl⟩ := Option.map_eq_some_iff.mp found
    have same : use.artifact = artifact := by simpa using List.find?_some held
    rw [← same]
    exact List.mem_of_find?_eq_some held
  · intro present
    cases held : (publicationsOf jobs).find? fun use => use.artifact == artifact with
    | none =>
        have missed := List.find?_eq_none.mp held _ present
        simp at missed
    | some use =>
        have same : use.artifact = artifact := by simpa using List.find?_some held
        have distinct : ((publicationsOf jobs).map ArtifactUse.artifact).Nodup := by
          rw [publications_artifacts]
          exact single
        have one := List.inj_on_of_nodup_map distinct (List.mem_of_find?_eq_some held) present same
        simp [producerOf?, held, one]

end BuildMatrix
