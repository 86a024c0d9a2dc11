import BuildMatrix.Proofs.Classes
import BuildMatrix.Proofs.Mapping
import BuildMatrix.Proofs.Resolution.Outcome

namespace BuildMatrix

variable {jobs : List Job} {edge : Edge} {one other : Job}

def Edge.ends (edge : Edge) : String × String := (edge.producer, edge.consumer)

def FirstAmong (wanted items : List String) (place : Nat) : Prop :=
  (∃ item ∈ wanted, items[place]? = some item) ∧ ∀ earlier < place, ∀ item ∈ wanted, items[earlier]? ≠ some item

-- Where the consumer of an edge stands among the jobs, and which of its
-- requirements is the first that the producer fulfils.
def FirstNeed (jobs : List Job) (edge : Edge) (place need : Nat) : Prop :=
  ∃ producer ∈ jobs, ∃ consumer, jobs[place]? = some consumer ∧
    producer.name = edge.producer ∧ consumer.name = edge.consumer ∧
    FirstAmong producer.publishedNames consumer.requiredNames need

def NeededBefore (jobs : List Job) (one other : Edge) : Prop :=
  ∃ place need further wanted, FirstNeed jobs one place need ∧ FirstNeed jobs other further wanted ∧
    (place < further ∨ place = further ∧ need < wanted)

def linksInto (jobs : List Job) (consumer : Job) : List Link :=
  consumer.requirements.filterMap (link? (publicationsOf jobs))

theorem links_flatMap (jobs : List Job) : linksOf jobs = jobs.flatMap (linksInto jobs) := by
  unfold linksOf requirementsOf linksInto
  rw [List.filterMap_flatMap]

theorem linksInto_consumer {link : Link} (present : link ∈ linksInto jobs one) : link.consumer = one.name := by
  obtain ⟨requirement, held, made⟩ := List.mem_filterMap.mp present
  obtain ⟨artifact, _, rfl⟩ := List.mem_map.mp (one.requirements_eq ▸ held)
  obtain ⟨producer, _, rfl⟩ := Option.map_eq_some_iff.mp made
  rfl

theorem links_named (jobs : List Job) (names : List String) : (linksOf jobs).filter (fun link => names.contains link.consumer) =
    (jobs.filter fun job => names.contains job.name).flatMap (linksInto jobs) := by
  rw [links_flatMap]
  exact filter_flatMap_sort (fun job link held => by rw [linksInto_consumer held]) jobs

theorem links_filter (distinct : DistinctNames jobs) (present : one ∈ jobs) :
    (linksOf jobs).filter (fun link => link.consumer == one.name) = linksInto jobs one := by
  have alone := part_filter (List.singleton_sublist.mpr present) distinct
  have named := links_named jobs ([one].map Job.name)
  rw [alone] at named
  simpa only [List.map_singleton, List.contains_cons, List.contains_nil, Bool.or_false, List.flatMap_singleton]
    using named

theorem producer_published (sound : Pipeline.Sound jobs) (present : one ∈ jobs) (artifact : String) :
    producerOf? (publicationsOf jobs) artifact = some one.name ↔ artifact ∈ one.publishedNames := by
  rw [producerOf_some sound.producers]
  constructor
  · rintro ⟨job, held, named, published⟩
    exact same_job sound.names held present named ▸ published
  · intro published
    exact ⟨one, present, rfl, published⟩

theorem edges_ends (links : List Link) : (edgesOf links).map Edge.ends = (links.map Link.ends).eraseDups := by
  simp [edgesOf, Function.comp_def, Edge.ends]

theorem edge_artifacts (sound : Pipeline.Sound jobs) (present : edge ∈ (graphOf jobs).edges) (first : one ∈ jobs)
    (second : other ∈ jobs) (called : one.name = edge.producer) (named : other.name = edge.consumer) :
    edge.artifacts = (other.requiredNames.filter fun artifact => decide (artifact ∈ one.publishedNames)).eraseDups := by
  obtain ⟨ends, _, rfl⟩ := List.mem_map.mp present
  obtain ⟨producer, consumer⟩ := ends
  change one.name = producer at called
  change other.name = consumer at named
  subst called
  subst named
  have between : (linksOf jobs).filter (fun link => link.ends == (one.name, other.name)) =
      (linksInto jobs other).filter fun link => link.producer == one.name := by
    rw [← links_filter sound.names second, List.filter_filter]
    rfl
  have listed : ∀ required : List String,
      ((((required.map fun artifact => (⟨artifact, other.name⟩ : ArtifactUse)).filterMap
        (link? (publicationsOf jobs))).filter fun link => link.producer == one.name).map Link.artifact) =
      required.filter fun artifact => decide (artifact ∈ one.publishedNames) := by
    intro required
    induction required with
    | nil => rfl
    | cons artifact rest ih =>
        have published := producer_published sound first artifact
        cases found : producerOf? (publicationsOf jobs) artifact with
        | none =>
            rw [found] at published
            have absent : artifact ∉ one.publishedNames := fun held => by simpa using published.mpr held
            simpa [link?, found, absent] using ih
        | some producer =>
            rw [found, Option.some.injEq] at published
            by_cases same : producer = one.name
            · simpa [link?, found, same, published.mp same] using ih
            · have absent : artifact ∉ one.publishedNames := fun held => same (published.mpr held)
              simpa [link?, found, same, absent] using ih
  simp only [between]
  rw [linksInto, other.requirements_eq, listed]

theorem linksInto_producers (sound : Pipeline.Sound jobs) (present : other ∈ jobs) :
    ((linksInto jobs other).map Link.producer).map some =
      other.requiredNames.map (producerOf? (publicationsOf jobs)) := by
  have found : ∀ artifact ∈ other.requiredNames, producerOf? (publicationsOf jobs) artifact ≠ none := by
    intro artifact required
    exact (allPublished_iff jobs).mp sound.requirements ⟨artifact, other.name⟩
      (mem_requirements.mpr ⟨other, present, rfl, required⟩)
  unfold linksInto
  rw [other.requirements_eq]
  generalize other.requiredNames = required at found
  induction required with
  | nil => rfl
  | cons artifact rest ih =>
      obtain ⟨first, others⟩ := List.forall_mem_cons.mp found
      obtain ⟨producer, held⟩ := Option.ne_none_iff_exists'.mp first
      simpa [link?, held] using ih others

theorem edge_source (sound : Pipeline.Sound jobs) (present : edge ∈ (graphOf jobs).edges) (second : other ∈ jobs)
    (named : other.name = edge.consumer) : edge.producer ∈ (linksInto jobs other).map Link.producer := by
  obtain ⟨link, held, left, right⟩ := leads_edgesOf.mp (leads_of_mem present)
  refine List.mem_map.mpr ⟨link, ?_, left⟩
  rw [← links_filter sound.names second]
  exact List.mem_filter.mpr ⟨held, by simp [right, named]⟩

theorem edge_firstNeed (sound : Pipeline.Sound jobs) (present : edge ∈ (graphOf jobs).edges) (first : one ∈ jobs)
    (second : other ∈ jobs) (called : one.name = edge.producer) (named : other.name = edge.consumer) :
    FirstAmong one.publishedNames other.requiredNames
      (((linksInto jobs other).map Link.producer).idxOf edge.producer) := by
  have aligned := linksInto_producers sound second
  have source := edge_source sound present second named
  rw [← called] at source ⊢
  generalize (linksInto jobs other).map Link.producer = sources at aligned source ⊢
  have across : ∀ place : Nat, (sources[place]?).map some =
      (other.requiredNames[place]?).map (producerOf? (publicationsOf jobs)) := by
    intro place
    rw [← List.getElem?_map, ← List.getElem?_map, aligned]
  constructor
  · have here := across (sources.idxOf one.name)
    rw [List.getElem?_idxOf source, Option.map_some] at here
    obtain ⟨artifact, required, found⟩ := Option.map_eq_some_iff.mp here.symm
    exact ⟨artifact, (producer_published sound first artifact).mp found, required⟩
  · intro earlier less artifact published required
    have there := across earlier
    rw [required, Option.map_some, (producer_published sound first artifact).mpr published] at there
    obtain ⟨name, listed, equal⟩ := Option.map_eq_some_iff.mp there
    cases equal
    obtain ⟨within, met⟩ := List.getElem?_eq_some_iff.mp listed
    have missed := List.not_of_lt_findIdx less
    simp [met] at missed

theorem names_ordered (distinct : DistinctNames jobs) :
    jobs.Pairwise fun one other => (jobs.map Job.name).idxOf one.name < (jobs.map Job.name).idxOf other.name := by
  have ordered := distinct_ordered distinct
  rwa [List.pairwise_map] at ordered

theorem job_at (distinct : DistinctNames jobs) (present : one ∈ jobs) {name : String} (named : one.name = name) :
    jobs[(jobs.map Job.name).idxOf name]? = some one := by
  subst named
  have listed := List.getElem?_idxOf (List.mem_map_of_mem (f := Job.name) present)
  rw [List.getElem?_map] at listed
  obtain ⟨job, found, same⟩ := Option.map_eq_some_iff.mp listed
  rw [found, same_job distinct (List.mem_of_getElem? found) present same]

theorem links_ordered (distinct : DistinctNames jobs) : ((linksOf jobs).map Link.ends).Pairwise fun one other =>
    (jobs.map Job.name).idxOf one.2 ≤ (jobs.map Job.name).idxOf other.2 := by
  rw [links_flatMap, List.pairwise_map, List.pairwise_flatMap]
  constructor
  · intro job _
    apply List.pairwise_of_forall_mem_list
    intro one first other second
    change List.idxOf one.consumer _ ≤ List.idxOf other.consumer _
    exact Nat.le_of_eq (by rw [linksInto_consumer first, linksInto_consumer second])
  · refine (names_ordered distinct).imp ?_
    intro before after less one first other second
    change List.idxOf one.consumer _ ≤ List.idxOf other.consumer _
    rw [linksInto_consumer first, linksInto_consumer second]
    exact Nat.le_of_lt less

theorem ends_filter (distinct : DistinctNames jobs) (present : other ∈ jobs) :
    ((linksOf jobs).map Link.ends).filter (fun ends => ends.2 == other.name) =
      ((linksInto jobs other).map Link.producer).map fun producer => (producer, other.name) := by
  rw [List.filter_map, ← links_filter distinct present, List.map_map]
  apply List.map_congr_left
  intro link held
  have named : link.ends.2 = other.name := by simpa using (List.mem_filter.mp held).2
  exact Prod.ext rfl named

theorem graph_sources (distinct : DistinctNames jobs) (present : other ∈ jobs) :
    (graphOf jobs).dependenciesOf other.name = ((linksInto jobs other).map Link.producer).eraseDups := by
  have tagged : Function.Injective fun producer : String => (producer, other.name) :=
    fun _ _ pair => congrArg Prod.fst pair
  have ends : ((graphOf jobs).edges.filter fun edge => edge.consumer == other.name).map Edge.ends =
      ((linksInto jobs other).map Link.producer).eraseDups.map fun producer => (producer, other.name) := by
    calc ((graphOf jobs).edges.filter fun edge => edge.consumer == other.name).map Edge.ends
        = ((graphOf jobs).edges.map Edge.ends).filter fun ends => ends.2 == other.name := by
          rw [List.filter_map]
          rfl
      _ = (((linksOf jobs).map Link.ends).filter fun ends => ends.2 == other.name).eraseDups := by
          rw [graphOf, edges_ends, eraseDups_filter]
      _ = ((linksInto jobs other).map Link.producer).eraseDups.map fun producer => (producer, other.name) := by
          rw [ends_filter distinct present, eraseDups_map _ tagged]
  have sources := congrArg (List.map Prod.fst) ends
  rw [List.map_map, List.map_map] at sources
  exact sources.trans (List.map_id _)

theorem graph_dependencies (sound : Pipeline.Sound jobs) (present : other ∈ jobs) {producers : List String}
    (found : other.requiredNames.map (producerOf? (publicationsOf jobs)) = producers.map some) :
    (graphOf jobs).dependenciesOf other.name = producers.eraseDups := by
  have sources : (linksInto jobs other).map Link.producer = producers :=
    List.map_injective_iff.mpr (fun _ _ => Option.some.inj) ((linksInto_producers sound present).trans found)
  rw [graph_sources sound.names present, sources]

theorem edge_need (sound : Pipeline.Sound jobs) (present : edge ∈ (graphOf jobs).edges) :
    ∃ consumer ∈ jobs, consumer.name = edge.consumer ∧
      FirstNeed jobs edge ((jobs.map Job.name).idxOf edge.consumer)
        (((linksInto jobs consumer).map Link.producer).idxOf edge.producer) := by
  obtain ⟨one, other, ⟨first, second, _⟩, called, named⟩ :=
    (leads_graph sound.producers).mp (leads_of_mem present)
  refine ⟨other, second, named, one, first, other, ?_, called, named,
    edge_firstNeed sound present first second called named⟩
  exact job_at sound.names second named

-- Of the links of one consumer, what is left of the order is that of its own.
theorem sources_ordered (distinct : DistinctNames jobs) (present : one ∈ jobs) {left right : Edge}
    (named : one.name = left.consumer) (called : one.name = right.consumer)
    (earlier : ((linksOf jobs).map Link.ends).idxOf left.ends < ((linksOf jobs).map Link.ends).idxOf right.ends) :
    ((linksInto jobs one).map Link.producer).idxOf left.producer <
      ((linksInto jobs one).map Link.producer).idxOf right.producer := by
  have inLeft : left.ends = (left.producer, one.name) := by simp [Edge.ends, named]
  have inRight : right.ends = (right.producer, one.name) := by simp [Edge.ends, called]
  have apart : Function.Injective fun producer : String => (producer, one.name) :=
    fun _ _ pair => congrArg Prod.fst pair
  have within := idxOf_filter (fun ends => ends.2 == one.name) _ (by simp [inLeft]) (by simp [inRight]) earlier
  rwa [ends_filter distinct present, inLeft, inRight, idxOf_map _ apart, idxOf_map _ apart] at within

theorem edges_ordered (sound : Pipeline.Sound jobs) : (graphOf jobs).edges.Pairwise (NeededBefore jobs) := by
  have ends : (graphOf jobs).edges.map Edge.ends = ((linksOf jobs).map Link.ends).eraseDups := edges_ends _
  have places := (links_ordered sound.names).sublist (eraseDups_sublist _)
  have orders := eraseDups_ordered ((linksOf jobs).map Link.ends)
  rw [← ends, List.pairwise_map] at places orders
  refine (places.and orders).imp_of_mem ?_
  rintro left right first second ⟨sooner, earlier⟩
  obtain ⟨one, held, named, need⟩ := edge_need sound first
  obtain ⟨other, there, called, want⟩ := edge_need sound second
  refine ⟨_, _, _, _, need, want, ?_⟩
  rcases Nat.lt_or_eq_of_le sooner with less | same
  · exact .inl less
  · have equal : left.consumer = right.consumer :=
      (List.idxOf_inj (named ▸ List.mem_map_of_mem held)).mp same
    have shared : one = other := same_job sound.names held there (named.trans (equal.trans called.symm))
    subst shared
    exact .inr ⟨same, sources_ordered sound.names held named called earlier⟩

namespace Pipeline

variable {pipeline : Pipeline}

-- The edges of a pipeline as its jobs' artifacts demand them.
structure ArtifactEdges (jobs : List Job) (edges : List Edge) : Prop where
  linked : ∀ producer consumer, Leads edges producer consumer ↔
    ∃ one other, Feeds jobs one other ∧ one.name = producer ∧ other.name = consumer
  single : (edges.map Edge.ends).Nodup
  listed : ∀ edge ∈ edges, ∀ one ∈ jobs, ∀ other ∈ jobs, one.name = edge.producer → other.name = edge.consumer →
    edge.artifacts.Nodup ∧
    (∀ artifact, artifact ∈ edge.artifacts ↔ artifact ∈ one.publishedNames ∧ artifact ∈ other.requiredNames) ∧
    edge.artifacts.Pairwise fun a b => other.requiredNames.idxOf a < other.requiredNames.idxOf b
  ordered : edges.Pairwise (NeededBefore jobs)

theorem artifacts_listed (sound : Sound jobs) (present : edge ∈ (graphOf jobs).edges) (first : one ∈ jobs)
    (second : other ∈ jobs) (called : one.name = edge.producer) (named : other.name = edge.consumer) :
    edge.artifacts.Nodup ∧
    (∀ artifact, artifact ∈ edge.artifacts ↔ artifact ∈ one.publishedNames ∧ artifact ∈ other.requiredNames) ∧
    edge.artifacts.Pairwise fun a b => other.requiredNames.idxOf a < other.requiredNames.idxOf b := by
  rw [edge_artifacts sound present first second called named]
  refine ⟨eraseDups_nodup _, ?_, ?_⟩
  · intro artifact
    simp [List.mem_eraseDups, and_comm]
  · rw [eraseDups_filter]
    exact (eraseDups_ordered _).filter _

theorem graph_edges (sound : Sound jobs) : ArtifactEdges jobs (graphOf jobs).edges where
  linked _ _ := leads_graph sound.producers
  single := by
    rw [graphOf, edges_ends]
    exact eraseDups_nodup _
  listed _ present _ first _ second called named := artifacts_listed sound present first second called named
  ordered := edges_ordered sound

theorem producers_rows (sound : Sound jobs) : (graphOf jobs).artifactProducers.rows =
    (publicationsOf jobs).map fun use => (use.artifact, use.job) := by
  apply Mapping.ofList_rows
  rw [List.map_map]
  have distinct := sound.producers
  rwa [SingleProducers, ← publications_artifacts] at distinct

theorem lookup_find (uses : List ArtifactUse) (artifact : String) :
    (uses.map fun use => (use.artifact, use.job)).lookup artifact = producerOf? uses artifact := by
  unfold producerOf?
  induction uses with
  | nil => rfl
  | cons use rest ih =>
      by_cases same : use.artifact = artifact
      · simp [same]
      · have missed : (artifact == use.artifact) = false := by simpa using fun equal => same equal.symm
        have passed : (use.artifact == artifact) = false := by simpa using same
        rw [List.map_cons, List.lookup_cons, missed, List.find?_cons_of_neg (by simp [passed])]
        exact ih

theorem producers_agree (sound : Sound jobs) (artifact : String) :
    (graphOf jobs).artifactProducers.get? artifact = producerOf? (publicationsOf jobs) artifact := by
  change (graphOf jobs).artifactProducers.rows.lookup artifact = _
  rw [producers_rows sound, lookup_find]

theorem edge_producers (sound : Sound jobs) (present : edge ∈ (graphOf jobs).edges) {artifact : String}
    (carried : artifact ∈ edge.artifacts) :
    (graphOf jobs).artifactProducers.get? artifact = some edge.producer := by
  obtain ⟨one, other, ⟨first, second, _⟩, called, named⟩ :=
    (leads_graph sound.producers).mp (leads_of_mem present)
  have published := ((artifacts_listed sound present first second called named).2.1 artifact).mp carried
  rw [producers_agree sound, ← called]
  exact (producer_published sound first artifact).mpr published.1

-- What is resolved has the edges that the artifacts demand and no others, and
-- its table of producers repeats the declarations.
theorem resolve_edges (jobs : List Job) (pipeline : Pipeline) (resolved : resolve jobs = .ok pipeline) :
    ArtifactEdges jobs pipeline.edges ∧
    pipeline.artifactProducers.rows =
      jobs.flatMap (fun job => job.publishes.map fun artifact => (artifact.name, job.name)) ∧
    (∀ artifact, pipeline.artifactProducers.get? artifact = producerOf? (jobs.flatMap Job.publications) artifact) ∧
    ∀ edge ∈ pipeline.edges, ∀ artifact ∈ edge.artifacts,
      pipeline.artifactProducers.get? artifact = some edge.producer := by
  obtain ⟨sound, rfl⟩ := resolve_ok.mp resolved
  refine ⟨graph_edges sound, ?_, producers_agree sound, ?_⟩
  · rw [producers_rows sound, publicationsOf, List.map_flatMap]
    simp [Job.publications, Function.comp_def]
  · intro edge present artifact carried
    exact edge_producers sound present carried

def relay : List Job := [
  .declaring "test" [] ["lib", "jdk", "lib"],
  .declaring "jdk" ["jdk", "src"] [],
  .declaring "lib" ["lib"] ["src", "jdk", "src"]]

def relayEdges : List Edge :=
  [⟨"lib", "test", ["lib"]⟩, ⟨"jdk", "test", ["jdk"]⟩, ⟨"jdk", "lib", ["src", "jdk"]⟩]

theorem relay_edges : resolve relay = .ok ⟨relay, relayEdges⟩ ∧ ArtifactEdges relay relayEdges ∧
    (⟨relay, relayEdges⟩ : Pipeline).artifactProducers.rows = [("jdk", "jdk"), ("src", "jdk"), ("lib", "lib")] := by
  have distinct : DistinctNames relay := by unfold DistinctNames; decide
  have single : SingleProducers relay := by unfold SingleProducers; decide
  have published : AllPublished relay := by unfold AllPublished; decide
  have drawn : graphOf relay = ⟨relay, relayEdges⟩ := rfl
  have staged : (⟨relay, relayEdges⟩ : Pipeline).levels = .ok [["jdk"], ["lib"], ["test"]] := by cbv
  have resolved : resolve relay = .ok ⟨relay, relayEdges⟩ := by
    rw [resolve_graph distinct single published, drawn, staged]
    rfl
  obtain ⟨edges, rows, _⟩ := resolve_edges relay _ resolved
  exact ⟨resolved, edges, rows⟩

end Pipeline
end BuildMatrix
