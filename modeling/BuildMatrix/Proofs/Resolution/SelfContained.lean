import BuildMatrix.Proofs.Resolution.Skipped

namespace BuildMatrix

def edgesInto (names : List String) (edges : List Edge) : List Edge :=
  edges.filter fun edge => names.contains edge.consumer

theorem leads_edgesInto {edges : List Edge} {names : List String} {producer consumer : String} :
    Leads (edgesInto names edges) producer consumer ↔ Leads edges producer consumer ∧ consumer ∈ names := by
  simp only [Leads, edgesInto, List.mem_filter, List.contains_iff_mem]
  constructor
  · rintro ⟨edge, ⟨held, listed⟩, rfl, rfl⟩
    exact ⟨⟨edge, held, rfl, rfl⟩, listed⟩
  · rintro ⟨⟨edge, held, rfl, rfl⟩, listed⟩
    exact ⟨edge, ⟨held, listed⟩, rfl, rfl⟩

-- Edges are drawn from the links one pair of ends at a time, so those into some
-- names are drawn from the links into them.
theorem edgesOf_into (names : List String) (links : List Link) :
    edgesOf (links.filter fun link => names.contains link.consumer) = edgesInto names (edgesOf links) := by
  unfold edgesOf edgesInto
  have ends : (links.filter fun link => names.contains link.consumer).map Link.ends =
      (links.map Link.ends).filter fun ends => names.contains ends.2 := by
    rw [List.filter_map]
    rfl
  rw [ends, eraseDups_filter, List.filter_map]
  refine List.map_congr_left ?_
  intro ends present
  have listed := (List.mem_filter.mp present).2
  have same : (links.filter fun link => names.contains link.consumer).filter (fun link => link.ends == ends) =
      links.filter fun link => link.ends == ends := by
    rw [List.filter_filter]
    refine List.filter_congr ?_
    intro link _
    cases met : link.ends == ends with
    | false => rfl
    | true =>
        obtain rfl : link.ends = ends := by simpa using met
        exact listed
  simp only [same]

variable {jobs part : List Job} {one other : Job}

theorem producerOf_part (within : part.Sublist jobs) (sound : Pipeline.Sound jobs) (again : Pipeline.Sound part)
    (present : other ∈ part) {artifact : String} (required : artifact ∈ other.requiredNames) :
    producerOf? (publicationsOf part) artifact = producerOf? (publicationsOf jobs) artifact := by
  obtain ⟨source, held, offered⟩ := again.requirements other present artifact required
  rw [(producer_published again held artifact).mpr offered,
    (producer_published sound (within.subset held) artifact).mpr offered]

theorem linksInto_part (within : part.Sublist jobs) (sound : Pipeline.Sound jobs) (again : Pipeline.Sound part)
    (present : other ∈ part) : linksInto part other = linksInto jobs other := by
  unfold linksInto
  refine List.filterMap_congr ?_
  intro requirement held
  rw [other.requirements_eq] at held
  obtain ⟨artifact, required, rfl⟩ := List.mem_map.mp held
  unfold link?
  rw [producerOf_part within sound again present required]

theorem links_part (within : part.Sublist jobs) (sound : Pipeline.Sound jobs) (again : Pipeline.Sound part) :
    linksOf part = (linksOf jobs).filter fun link => (part.map Job.name).contains link.consumer := by
  rw [links_named, part_filter within sound.names, links_flatMap]
  exact List.flatMap_congr fun job present => linksInto_part within sound again present

theorem graph_part (within : part.Sublist jobs) (sound : Pipeline.Sound jobs) (again : Pipeline.Sound part) :
    (graphOf part).edges = edgesInto (part.map Job.name) (graphOf jobs).edges := by
  rw [graphOf, links_part within sound again, edgesOf_into]
  rfl

theorem leads_part (within : part.Sublist jobs) (sound : Pipeline.Sound jobs) (again : Pipeline.Sound part)
    {producer consumer : String} : Leads (graphOf part).edges producer consumer ↔
      Leads (graphOf jobs).edges producer consumer ∧ consumer ∈ (graphOf part).names := by
  rw [graph_part within sound again, leads_edgesInto]
  rfl

theorem leads_stays (within : part.Sublist jobs) (sound : Pipeline.Sound jobs) (again : Pipeline.Sound part)
    (producer consumer : String) (step : Leads (graphOf jobs).edges producer consumer)
    (held : consumer ∈ (graphOf part).names) :
    producer ∈ (graphOf part).names ∧ Leads (graphOf part).edges producer consumer := by
  have kept := (leads_part within sound again).mpr ⟨step, held⟩
  obtain ⟨edge, present, rfl, rfl⟩ := kept
  exact ⟨(Pipeline.known_ends (graph_known again.producers) present).1, leads_of_mem present⟩

theorem longest_part (within : part.Sublist jobs) (sound : Pipeline.Sound jobs) (again : Pipeline.Sound part)
    {length : Nat} {name : String} (held : name ∈ (graphOf part).names) :
    LongestChain (graphOf part).edges length name ↔ LongestChain (graphOf jobs).edges length name := by
  have chains : ∀ count, ChainTo (graphOf part).edges count name ↔ ChainTo (graphOf jobs).edges count name :=
    fun count => ⟨chain_mono fun _ _ step => ((leads_part within sound again).mp step).1,
      fun chain => chain_inside (leads_stays within sound again) chain held⟩
  simp only [LongestChain, chains]

theorem reaches_part (within : part.Sublist jobs) (sound : Pipeline.Sound jobs) (again : Pipeline.Sound part)
    {name further : String} (held : further ∈ (graphOf part).names) :
    Reaches (graphOf part).edges name further ↔ Reaches (graphOf jobs).edges name further :=
  ⟨fun path => path.lift id fun _ _ step => ((leads_part within sound again).mp step).1,
    fun path => reaches_inside (leads_stays within sound again) path held⟩

namespace Pipeline

variable {pipeline : Pipeline} {levels : List (List String)} {name : String}

theorem staged_at (staged : pipeline.Staged levels) (present : name ∈ pipeline.names) : ∃ number,
    LongestChain pipeline.edges number name ∧ ∀ level, name ∈ levels.getD level [] ↔ level = number := by
  obtain ⟨stage, listed, inside⟩ := List.mem_flatten.mp ((staged.complete name).mpr present)
  obtain ⟨number, rfl⟩ := level_at listed
  have walk := ((staged.depth number name).mp inside).2
  refine ⟨number, walk, fun level => ⟨fun there => ?_, fun same => same ▸ inside⟩⟩
  exact longest_unique ((staged.depth level name).mp there).2 walk

-- A pipeline inside another: what leads to its jobs is the same in both, and so is
-- the stage of each; what lies beyond them outside is left out.
structure Embedded (whole inner : Pipeline) : Prop where
  edges : inner.edges = whole.edges.filter fun edge => inner.names.contains edge.consumer
  stages : ∃ levels rows, whole.levels = .ok levels ∧ inner.levels = .ok rows ∧
    ∀ name ∈ inner.names, ∃ number, ∀ level,
      (name ∈ levels.getD level [] ↔ level = number) ∧ (name ∈ rows.getD level [] ↔ level = number)
  dependents : ∀ name ∈ inner.names, ∃ listed, whole.transitiveDependents name = .ok listed ∧
    inner.transitiveDependents name = .ok (listed.filter inner.names.contains)

theorem beyond_part (within : part.Sublist jobs) (sound : Sound jobs) (again : Sound part) {listed found : List String}
    (beyond : (graphOf jobs).Beyond name listed) (inner : (graphOf part).Beyond name found) :
    found = listed.filter (graphOf part).names.contains := by
  have names : (graphOf part).names.Sublist (graphOf jobs).names := within.map Job.name
  refine sublist_same sound.names (inner.ordered.trans names) (List.filter_sublist.trans beyond.ordered) ?_
  intro further
  rw [inner.reached, List.mem_filter, beyond.reached, List.contains_iff_mem]
  constructor
  · rintro ⟨held, path⟩
    exact ⟨⟨names.subset held, (reaches_part within sound again held).mp path⟩, held⟩
  · rintro ⟨⟨_, path⟩, held⟩
    exact ⟨held, (reaches_part within sound again held).mpr path⟩

theorem part_embedded (within : part.Sublist jobs) (sound : Sound jobs) (again : Sound part) :
    Embedded (graphOf jobs) (graphOf part) where
  edges := graph_part within sound again
  stages := by
    obtain ⟨levels, computed, staged⟩ := graph_staged sound
    obtain ⟨rows, found, placed⟩ := graph_staged again
    refine ⟨levels, rows, computed, found, fun name held => ?_⟩
    have whole : name ∈ (graphOf jobs).names := (within.map Job.name).subset held
    obtain ⟨number, walk, only⟩ := staged_at staged whole
    refine ⟨number, fun level => ⟨only level, ?_⟩⟩
    rw [placed.depth, and_iff_right held, longest_part within sound again held]
    exact ⟨fun other => longest_unique other walk, fun same => same ▸ walk⟩
  dependents := by
    intro name held
    have whole : name ∈ (graphOf jobs).names := (within.map Job.name).subset held
    refine ⟨_, transitiveDependents_known whole, ?_⟩
    rw [transitiveDependents_known held,
      beyond_part within sound again (filter_beyond (graphOf jobs) name) (filter_beyond (graphOf part) name)]

theorem mem_dependencies {producer : String} :
    producer ∈ pipeline.dependenciesOf name ↔ Leads pipeline.edges producer name := by
  simp only [dependenciesOf, List.mem_map, List.mem_filter, beq_iff_eq, Leads]
  constructor
  · rintro ⟨edge, ⟨held, consumed⟩, produced⟩
    exact ⟨edge, held, produced, consumed⟩
  · rintro ⟨edge, held, produced, consumed⟩
    exact ⟨edge, ⟨held, consumed⟩, produced⟩

theorem sustained_names (within : part.Sublist jobs) (sound : Sound jobs) : Sustained jobs part ↔
    ∀ job ∈ part, ∀ name ∈ (graphOf jobs).dependenciesOf job.name, name ∈ part.map Job.name := by
  simp only [mem_dependencies, leads_graph sound.producers]
  constructor
  · rintro sustained job held _ ⟨producer, consumer, fed, rfl, named⟩
    obtain rfl := same_job sound.names fed.2.1 (within.subset held) named
    exact List.mem_map_of_mem (sustained producer consumer fed held)
  · intro listed producer consumer fed held
    obtain ⟨job, inside, named⟩ := List.mem_map.mp (listed consumer held _ ⟨producer, consumer, fed, rfl, rfl⟩)
    exact same_job sound.names (within.subset inside) fed.1 named ▸ inside

-- Some of the jobs can do without the others exactly if they wait for none of
-- them, and then the others make no difference to what is found out about them.
theorem resolve_part (jobs part : List Job) (within : part.Sublist jobs) (whole : Pipeline)
    (resolved : resolve jobs = .ok whole) :
    (∀ inner, resolve part = .ok inner → inner.jobs = part ∧ Embedded whole inner) ∧
    ((∃ inner, resolve part = .ok inner) ↔
      ∀ job ∈ part, ∀ name ∈ whole.dependenciesOf job.name, name ∈ part.map Job.name) := by
  obtain ⟨sound, rfl⟩ := resolve_ok.mp resolved
  constructor
  · intro inner found
    obtain ⟨again, rfl⟩ := resolve_ok.mp found
    exact ⟨rfl, part_embedded within sound again⟩
  · rw [resolved_iff, sustained_sound within sound, sustained_names within sound]

def workshop : List Job := [.declaring "jdk" ["jdk"] [], .declaring "image" ["image"] ["jdk"]]

theorem shelf_part : workshop.Sublist shelf ∧ resolve shelf = .ok ⟨shelf, shelfEdges⟩ ∧
    (∃ inner, resolve workshop = .ok inner ∧ inner.jobs = workshop ∧ Embedded ⟨shelf, shelfEdges⟩ inner ∧
      inner.edges = [⟨"jdk", "image", ["jdk"]⟩]) ∧
    ¬∃ inner, resolve [.declaring "image" ["image"] ["jdk"]] = .ok inner := by
  have within : workshop.Sublist shelf := .cons _ (.cons_cons _ (.cons _ (.cons_cons _ .slnil)))
  have alone : [Job.declaring "image" ["image"] ["jdk"]].Sublist shelf := .cons _ (.cons _ (.cons _ (.cons_cons _ .slnil)))
  obtain ⟨embedded, complete⟩ := resolve_part shelf workshop within _ shelf_resolved
  obtain ⟨_, severed⟩ := resolve_part shelf _ alone _ shelf_resolved
  obtain ⟨inner, found⟩ := complete.mpr (by decide)
  obtain ⟨jobs, inside⟩ := embedded inner found
  refine ⟨within, shelf_resolved, ⟨inner, found, jobs, inside, ?_⟩, fun resolved => ?_⟩
  · rw [inside.edges, names, jobs]
    decide
  · exact absurd (severed.mp resolved) (by decide)

end Pipeline
end BuildMatrix
