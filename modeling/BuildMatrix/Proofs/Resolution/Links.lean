import BuildMatrix.Proofs.Graph.Levels
import BuildMatrix.Proofs.Outcomes
import BuildMatrix.Proofs.Resolution.Declarations

namespace BuildMatrix

variable {jobs : List Job} {links : List Link}

def link? (publications : List ArtifactUse) (requirement : ArtifactUse) : Option Link :=
  (producerOf? publications requirement.artifact).map fun producer =>
    ⟨producer, requirement.job, requirement.artifact⟩

def linksOf (jobs : List Job) : List Link := (requirementsOf jobs).filterMap (link? (publicationsOf jobs))

-- The pipeline that the declarations stand for, whether or not it is sound.
def graphOf (jobs : List Job) : Pipeline := ⟨jobs, edgesOf (linksOf jobs)⟩

theorem linkOf_ok {publications : List ArtifactUse} {requirement : ArtifactUse} {link : Link} :
    linkOf publications requirement = .ok link ↔ link? publications requirement = some link := by
  unfold linkOf link?
  cases producerOf? publications requirement.artifact with
  | none => simp
  | some producer => simp

theorem linkOf_error {publications : List ArtifactUse} {requirement : ArtifactUse} {failure : Failure} :
    linkOf publications requirement = .error failure ↔
      producerOf? publications requirement.artifact = none ∧
        failure = .unpublishedArtifact requirement.job requirement.artifact
          (publications.map ArtifactUse.artifact) := by
  unfold linkOf
  cases producerOf? publications requirement.artifact with
  | none => simp [eq_comm]
  | some producer => simp

theorem allPublished_iff (jobs : List Job) : AllPublished jobs ↔
    ∀ requirement ∈ requirementsOf jobs, producerOf? (publicationsOf jobs) requirement.artifact ≠ none := by
  have listed : ∀ artifact, producerOf? (publicationsOf jobs) artifact ≠ none ↔
      ∃ producer ∈ jobs, artifact ∈ producer.publishedNames := by
    intro artifact
    rw [Ne, producerOf_none, publications_artifacts, Classical.not_not, List.mem_flatMap]
  constructor
  · intro published requirement present
    obtain ⟨job, held, _, required⟩ := mem_requirements.mp present
    exact (listed _).mpr (published job held _ required)
  · intro published job held artifact required
    exact (listed artifact).mp (published ⟨artifact, job.name⟩ (mem_requirements.mpr ⟨job, held, rfl, required⟩))

theorem links_ok (jobs : List Job) : (requirementsOf jobs).mapM (linkOf (publicationsOf jobs)) = .ok links ↔
    AllPublished jobs ∧ links = linksOf jobs := by
  rw [mapM_ok, allPublished_iff]
  unfold linksOf
  generalize requirementsOf jobs = requirements
  constructor
  · intro each
    induction each with
    | nil => simp
    | @cons requirement link rest others first _ ih =>
        have fulfilled := linkOf_ok.mp first
        obtain ⟨published, equal⟩ := ih
        refine ⟨?_, by rw [List.filterMap_cons, fulfilled, equal]⟩
        refine List.forall_mem_cons.mpr ⟨?_, published⟩
        intro none
        simp [link?, none] at fulfilled
  · rintro ⟨published, rfl⟩
    induction requirements with
    | nil => exact .nil
    | cons requirement rest ih =>
        obtain ⟨first, others⟩ := List.forall_mem_cons.mp published
        obtain ⟨producer, found⟩ := Option.ne_none_iff_exists'.mp first
        have fulfilled : link? (publicationsOf jobs) requirement =
            some ⟨producer, requirement.job, requirement.artifact⟩ := by simp [link?, found]
        rw [List.filterMap_cons, fulfilled]
        exact .cons (linkOf_ok.mpr fulfilled) (ih others)

-- The first requirement that no job of the whole list publishes, be it before or after.
def FirstUnmet (jobs : List Job) (requirement : ArtifactUse) : Prop :=
  ∃ before after, requirementsOf jobs = before ++ requirement :: after ∧
    (∀ earlier ∈ before, earlier.artifact ∈ jobs.flatMap Job.publishedNames) ∧
    requirement.artifact ∉ jobs.flatMap Job.publishedNames

theorem links_error {failure : Failure} :
    (requirementsOf jobs).mapM (linkOf (publicationsOf jobs)) = .error failure ↔
      ∃ requirement, FirstUnmet jobs requirement ∧ failure =
        .unpublishedArtifact requirement.job requirement.artifact (jobs.flatMap Job.publishedNames) := by
  have met : ∀ requirement, (∃ link, linkOf (publicationsOf jobs) requirement = .ok link) ↔
      requirement.artifact ∈ jobs.flatMap Job.publishedNames := by
    intro requirement
    have absent : producerOf? (publicationsOf jobs) requirement.artifact = none ↔
        requirement.artifact ∉ jobs.flatMap Job.publishedNames := by
      rw [producerOf_none, publications_artifacts]
    rw [← Classical.not_not (a := requirement.artifact ∈ _), ← absent, ← Ne, Option.ne_none_iff_exists']
    simp only [linkOf_ok, link?, Option.map_eq_some_iff]
    exact ⟨fun ⟨_, producer, found, _⟩ => ⟨producer, found⟩, fun ⟨producer, found⟩ => ⟨_, producer, found, rfl⟩⟩
  simp only [mapM_error, linkOf_error, met, producerOf_none, publications_artifacts, FirstUnmet]
  constructor
  · rintro ⟨before, requirement, after, split, earlier, missing, told⟩
    exact ⟨requirement, ⟨before, after, split, earlier, missing⟩, told⟩
  · rintro ⟨requirement, ⟨before, after, split, earlier, missing⟩, told⟩
    exact ⟨before, requirement, after, split, earlier, missing, told⟩

theorem unmet_exists (missing : ¬AllPublished jobs) : ∃ requirement, FirstUnmet jobs requirement := by
  cases ran : (requirementsOf jobs).mapM (linkOf (publicationsOf jobs)) with
  | ok links => exact False.elim (missing ((links_ok jobs).mp ran).1)
  | error failure =>
      obtain ⟨requirement, unmet, _⟩ := links_error.mp ran
      exact ⟨requirement, unmet⟩

theorem mem_links (single : SingleProducers jobs) {link : Link} : link ∈ linksOf jobs ↔
    ∃ producer ∈ jobs, ∃ consumer ∈ jobs, producer.name = link.producer ∧ consumer.name = link.consumer ∧
      link.artifact ∈ producer.publishedNames ∧ link.artifact ∈ consumer.requiredNames := by
  obtain ⟨source, target, artifact⟩ := link
  simp only [linksOf, List.mem_filterMap, link?, Option.map_eq_some_iff, Link.mk.injEq]
  constructor
  · rintro ⟨requirement, present, name, found, rfl, rfl, rfl⟩
    obtain ⟨consumer, held, named, required⟩ := mem_requirements.mp present
    obtain ⟨producer, there, called, published⟩ := (producerOf_some single).mp found
    exact ⟨producer, there, consumer, held, called, named, published, required⟩
  · rintro ⟨producer, there, consumer, held, called, named, published, required⟩
    exact ⟨⟨artifact, target⟩, mem_requirements.mpr ⟨consumer, held, named, required⟩, source,
      (producerOf_some single).mpr ⟨producer, there, called, published⟩, rfl, rfl, rfl⟩

theorem leads_edgesOf {producer consumer : String} : Leads (edgesOf links) producer consumer ↔
    ∃ link ∈ links, link.producer = producer ∧ link.consumer = consumer := by
  unfold Leads edgesOf
  simp only [List.mem_map, List.mem_eraseDups, Link.ends]
  constructor
  · rintro ⟨_, ⟨_, ⟨link, present, rfl⟩, rfl⟩, rfl, rfl⟩
    exact ⟨link, present, rfl, rfl⟩
  · rintro ⟨link, present, rfl, rfl⟩
    exact ⟨_, ⟨_, ⟨link, present, rfl⟩, rfl⟩, rfl, rfl⟩

theorem leads_graph (single : SingleProducers jobs) {producer consumer : String} :
    Leads (graphOf jobs).edges producer consumer ↔
      ∃ one other, Feeds jobs one other ∧ one.name = producer ∧ other.name = consumer := by
  unfold graphOf
  rw [leads_edgesOf]
  constructor
  · rintro ⟨link, present, rfl, rfl⟩
    obtain ⟨one, first, other, second, called, named, published, required⟩ := (mem_links single).mp present
    exact ⟨one, other, ⟨first, second, link.artifact, published, required⟩, called, named⟩
  · rintro ⟨one, other, ⟨first, second, artifact, published, required⟩, rfl, rfl⟩
    exact ⟨⟨one.name, other.name, artifact⟩,
      (mem_links single).mpr ⟨one, first, other, second, rfl, rfl, published, required⟩, rfl, rfl⟩

-- A rank that rises by artifacts, and by one from some producer to each job that
-- is not at the bottom, is the length of the longest walk.
theorem chain_ranked (distinct : DistinctNames jobs) (single : SingleProducers jobs) (rank : Job → Nat)
    (rises : ∀ producer consumer, Feeds jobs producer consumer → rank producer < rank consumer)
    {length : Nat} {name : String} (chain : ChainTo (graphOf jobs).edges length name) :
    ∀ job ∈ jobs, job.name = name → length ≤ rank job := by
  induction chain with
  | here => exact fun _ _ _ => Nat.zero_le _
  | along _ step ih =>
      intro job present named
      obtain ⟨one, other, fed, left, right⟩ := (leads_graph single).mp step
      have same := same_job distinct fed.2.1 present (right.trans named.symm)
      subst same
      exact Nat.lt_of_le_of_lt (ih one fed.1 left) (rises one other fed)

theorem chain_climbs (single : SingleProducers jobs) (rank : Job → Nat)
    (below : ∀ job ∈ jobs, ∀ step, rank job = step + 1 → ∃ producer, Feeds jobs producer job ∧ rank producer = step)
    {length : Nat} {job : Job} (present : job ∈ jobs) (ranked : rank job = length) :
    ChainTo (graphOf jobs).edges length job.name := by
  induction length generalizing job with
  | zero => exact .here
  | succ length ih =>
      obtain ⟨producer, fed, lower⟩ := below job present length ranked
      exact (ih fed.1 lower).along ((leads_graph single).mpr ⟨producer, job, fed, rfl, rfl⟩)

theorem longest_ranked (distinct : DistinctNames jobs) (single : SingleProducers jobs) (rank : Job → Nat)
    (rises : ∀ producer consumer, Feeds jobs producer consumer → rank producer < rank consumer)
    (below : ∀ job ∈ jobs, ∀ step, rank job = step + 1 → ∃ producer, Feeds jobs producer job ∧ rank producer = step)
    {job : Job} (present : job ∈ jobs) : LongestChain (graphOf jobs).edges (rank job) job.name :=
  ⟨chain_climbs single rank below present rfl,
    fun _ chain => chain_ranked distinct single rank rises chain job present rfl⟩

theorem graph_known (single : SingleProducers jobs) : (graphOf jobs).Known := by
  intro name present
  obtain ⟨edge, held, ends⟩ := List.mem_flatMap.mp present
  obtain ⟨one, other, ⟨first, second, _⟩, called, named⟩ := (leads_graph single).mp (leads_of_mem held)
  change name ∈ jobs.map Job.name
  simp only [List.mem_cons, List.not_mem_nil, or_false] at ends
  rcases ends with rfl | rfl
  · exact List.mem_map.mpr ⟨one, first, called⟩
  · exact List.mem_map.mpr ⟨other, second, named⟩

theorem acyclic_graph (distinct : DistinctNames jobs) (single : SingleProducers jobs) :
    Acyclic (graphOf jobs).edges ↔ CycleFree jobs := by
  constructor
  · intro acyclic job path
    have named : ∀ one other, Feeds jobs one other → Leads (graphOf jobs).edges one.name other.name :=
      fun one other fed => (leads_graph single).mpr ⟨one, other, fed, rfl, rfl⟩
    exact acyclic job.name (path.lift Job.name named)
  · intro free name path
    have followed : ∀ producer consumer, Reaches (graphOf jobs).edges producer consumer →
        ∃ one other, one ∈ jobs ∧ other ∈ jobs ∧ one.name = producer ∧ other.name = consumer ∧
          Relation.TransGen (Feeds jobs) one other := by
      intro producer consumer path
      induction path with
      | single step =>
          obtain ⟨one, other, fed, called, named⟩ := (leads_graph single).mp step
          exact ⟨one, other, fed.1, fed.2.1, called, named, .single fed⟩
      | tail _ step ih =>
          obtain ⟨one, middle, first, between, called, reached, walked⟩ := ih
          obtain ⟨next, other, fed, left, named⟩ := (leads_graph single).mp step
          have same := same_job distinct between fed.1 (reached.trans left.symm)
          subst same
          exact ⟨one, other, first, fed.2.1, called, named, walked.tail fed⟩
    obtain ⟨one, other, first, second, called, named, walked⟩ := followed name name path
    have same := same_job distinct first second (called.trans named.symm)
    subst same
    exact free one walked

end BuildMatrix
