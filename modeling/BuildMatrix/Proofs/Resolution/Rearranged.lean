import BuildMatrix.Proofs.Resolution.Skipped

namespace BuildMatrix

-- Two attempts end in the same way: with results that belong together, or with
-- failures of one kind.
inductive Alike {α : Type} (related : α → α → Prop) : Except Failure α → Except Failure α → Prop where
  | succeed {one other : α} : related one other → Alike related (.ok one) (.ok other)
  | fail {one other : Failure} : one.report.kind = other.report.kind → Alike related (.error one) (.error other)

variable {jobs others : List Job} {one other : Job} {edge : Edge}

theorem distinct_perm (rearranged : jobs.Perm others) : DistinctNames jobs ↔ DistinctNames others :=
  (rearranged.map Job.name).nodup_iff

theorem single_perm (rearranged : jobs.Perm others) : SingleProducers jobs ↔ SingleProducers others :=
  (rearranged.flatMap_right Job.publishedNames).nodup_iff

theorem published_perm (rearranged : jobs.Perm others) : AllPublished jobs ↔ AllPublished others := by
  simp only [AllPublished, rearranged.mem_iff]

theorem feeds_perm (rearranged : jobs.Perm others) : Feeds jobs one other ↔ Feeds others one other := by
  simp only [Feeds, rearranged.mem_iff]

theorem cycleFree_perm (rearranged : jobs.Perm others) : CycleFree jobs ↔ CycleFree others := by
  have same : Feeds jobs = Feeds others := by
    funext producer consumer
    exact propext (feeds_perm rearranged)
  simp only [CycleFree, same]

theorem producerOf_perm (rearranged : jobs.Perm others) (single : SingleProducers jobs) :
    producerOf? (publicationsOf jobs) = producerOf? (publicationsOf others) := by
  funext artifact
  apply Option.ext
  intro name
  rw [producerOf_some single, producerOf_some ((single_perm rearranged).mp single)]
  simp only [rearranged.mem_iff]

theorem mem_graph (sound : Pipeline.Sound jobs) : edge ∈ (graphOf jobs).edges ↔
    ∃ one other, Feeds jobs one other ∧ edge = ⟨one.name, other.name,
      (other.requiredNames.filter fun artifact => decide (artifact ∈ one.publishedNames)).eraseDups⟩ := by
  constructor
  · intro present
    obtain ⟨one, other, fed, called, named⟩ := (leads_graph sound.producers).mp (leads_of_mem present)
    refine ⟨one, other, fed, ?_⟩
    rw [← edge_artifacts sound present fed.1 fed.2.1 called named, called, named]
  · rintro ⟨one, other, fed, rfl⟩
    obtain ⟨drawn, present, called, named⟩ := (leads_graph sound.producers).mpr ⟨one, other, fed, rfl, rfl⟩
    have carried := edge_artifacts sound present fed.1 fed.2.1 called.symm named.symm
    rw [← carried, ← called, ← named]
    exact present

theorem graph_perm (rearranged : jobs.Perm others) (sound : Pipeline.Sound jobs) (again : Pipeline.Sound others) :
    (graphOf jobs).edges.Perm (graphOf others).edges := by
  refine (List.perm_ext_iff_of_nodup ?_ ?_).mpr ?_
  · exact (Pipeline.graph_edges sound).single.of_map _
  · exact (Pipeline.graph_edges again).single.of_map _
  · intro edge
    simp only [mem_graph sound, mem_graph again, feeds_perm rearranged]

-- Of lists without an empty one among them, the first that is missing shows.
theorem rows_alike {levels rows : List (List String)} (inhabited : ∀ level ∈ levels, level ≠ [])
    (filled : ∀ row ∈ rows, row ≠ []) (each : ∀ number, (levels.getD number []).Perm (rows.getD number [])) :
    List.Forall₂ List.Perm levels rows := by
  induction levels generalizing rows with
  | nil =>
      cases rows with
      | nil => exact .nil
      | cons row rest => exact False.elim (filled row (by simp) (each 0).symm.eq_nil)
  | cons level below ih =>
      cases rows with
      | nil => exact False.elim (inhabited level (by simp) (each 0).eq_nil)
      | cons row rest =>
          exact .cons (each 0) (ih (List.forall_mem_cons.mp inhabited).2 (List.forall_mem_cons.mp filled).2
            fun number => each (number + 1))

namespace Pipeline

variable {pipeline second : Pipeline} {levels rows : List (List String)}

theorem staged_nodup (staged : pipeline.Staged levels) (number : Nat) : (levels.getD number []).Nodup := by
  rw [List.getD_eq_getElem?_getD]
  cases found : levels[number]? with
  | none => exact List.nodup_nil
  | some level => exact (List.nodup_flatten.mp staged.once).1 level (List.mem_of_getElem? found)

theorem staged_alike (staged : pipeline.Staged levels) (again : second.Staged rows)
    (names : ∀ name, name ∈ pipeline.names ↔ name ∈ second.names)
    (same : ∀ one other, Leads pipeline.edges one other ↔ Leads second.edges one other) :
    List.Forall₂ List.Perm levels rows := by
  refine rows_alike staged.inhabited again.inhabited ?_
  intro number
  refine (List.perm_ext_iff_of_nodup (staged_nodup staged number) (staged_nodup again number)).mpr ?_
  intro name
  rw [staged.depth, again.depth, names, longest_same same]

theorem beyond_perm {name : String} {listed found : List String} (distinct : pipeline.names.Nodup)
    (names : pipeline.names.Perm second.names)
    (same : ∀ one other, Leads pipeline.edges one other ↔ Leads second.edges one other)
    (beyond : pipeline.Beyond name listed) (again : second.Beyond name found) : listed.Perm found := by
  have leads : Leads pipeline.edges = Leads second.edges := by
    funext one other
    exact propext (same one other)
  refine (List.perm_ext_iff_of_nodup (distinct.sublist beyond.ordered)
    ((names.nodup_iff.mp distinct).sublist again.ordered)).mpr ?_
  intro further
  rw [beyond.reached, again.reached, names.mem_iff, Reaches, Reaches, leads]

theorem dependenciesOf_unknown (known : pipeline.Known) {name : String} (absent : name ∉ pipeline.names) :
    pipeline.dependenciesOf name = [] := by
  unfold dependenciesOf
  rw [List.map_eq_nil_iff, List.filter_eq_nil_iff]
  intro edge present same
  have named : edge.consumer = name := by simpa using same
  exact absent (named ▸ (known_ends known present).2)

theorem dependencies_perm (rearranged : jobs.Perm others) (sound : Sound jobs) (again : Sound others) (name : String) :
    (graphOf jobs).dependenciesOf name = (graphOf others).dependenciesOf name := by
  by_cases held : name ∈ jobs.map Job.name
  · obtain ⟨job, present, rfl⟩ := List.mem_map.mp held
    have found := (linksInto_producers sound present).symm
    have moved := found
    rw [producerOf_perm rearranged sound.producers] at moved
    rw [graph_dependencies sound present found,
      graph_dependencies again (rearranged.mem_iff.mp present) moved]
  · have elsewhere : name ∉ others.map Job.name := fun listed => held ((rearranged.map Job.name).mem_iff.mpr listed)
    rw [dependenciesOf_unknown (graph_known sound.producers) held,
      dependenciesOf_unknown (graph_known again.producers) elsewhere]

-- One graph drawn twice. What a job waits for stands in the order of its own
-- requirements; all else comes in the order of the jobs.
structure SameGraph (pipeline second : Pipeline) : Prop where
  jobs : pipeline.jobs.Perm second.jobs
  edges : pipeline.edges.Perm second.edges
  dependencies : ∀ name, pipeline.dependenciesOf name = second.dependenciesOf name
  stages : ∃ levels rows, pipeline.levels = .ok levels ∧ second.levels = .ok rows ∧
    List.Forall₂ List.Perm levels rows
  dependents : ∀ name ∈ pipeline.names, ∃ listed found, pipeline.transitiveDependents name = .ok listed ∧
    second.transitiveDependents name = .ok found ∧ listed.Perm found
  strangers : ∀ name, name ∉ pipeline.names → pipeline.transitiveDependents name = .error (.unknownJob name) ∧
    second.transitiveDependents name = .error (.unknownJob name)

theorem graph_alike (rearranged : jobs.Perm others) (sound : Sound jobs) (again : Sound others) :
    SameGraph (graphOf jobs) (graphOf others) := by
  have drawn := graph_perm rearranged sound again
  have names : (graphOf jobs).names.Perm (graphOf others).names := rearranged.map Job.name
  have distinct : (graphOf jobs).names.Nodup := sound.names
  have same : ∀ one other, Leads (graphOf jobs).edges one other ↔ Leads (graphOf others).edges one other := by
    intro one other
    simp only [Leads, drawn.mem_iff]
  refine ⟨rearranged, drawn, dependencies_perm rearranged sound again, ?_, ?_, ?_⟩
  · obtain ⟨levels, computed, staged⟩ := graph_staged sound
    obtain ⟨rows, found, placed⟩ := graph_staged again
    exact ⟨levels, rows, computed, found, staged_alike staged placed (fun _ => names.mem_iff) same⟩
  · intro name present
    exact ⟨_, _, transitiveDependents_known present, transitiveDependents_known (names.mem_iff.mp present),
      beyond_perm distinct names same (filter_beyond _ _) (filter_beyond _ _)⟩
  · intro name absent
    exact ⟨transitiveDependents_unknown absent,
      transitiveDependents_unknown fun listed => absent (names.mem_iff.mpr listed)⟩

theorem sound_perm (rearranged : jobs.Perm others) (sound : Sound jobs) : Sound others where
  names := (distinct_perm rearranged).mp sound.names
  producers := (single_perm rearranged).mp sound.producers
  requirements := (published_perm rearranged).mp sound.requirements
  cycle := (cycleFree_perm rearranged).mp sound.cycle

theorem fault_perm (rearranged : jobs.Perm others) {kind : FailureKind} (fault : FirstFault jobs kind) :
    FirstFault others kind := by
  cases fault with
  | names wrong => exact .names fun right => wrong ((distinct_perm rearranged).mpr right)
  | producers names wrong =>
      exact .producers ((distinct_perm rearranged).mp names) fun right => wrong ((single_perm rearranged).mpr right)
  | requirements names producers wrong =>
      exact .requirements ((distinct_perm rearranged).mp names) ((single_perm rearranged).mp producers)
        fun right => wrong ((published_perm rearranged).mpr right)
  | cycle names producers requirements wrong =>
      exact .cycle ((distinct_perm rearranged).mp names) ((single_perm rearranged).mp producers)
        ((published_perm rearranged).mp requirements) fun right => wrong ((cycleFree_perm rearranged).mpr right)

-- The order in which jobs are listed changes neither whether their graph can be
-- drawn, nor why it cannot, nor what is drawn.
theorem resolve_rearranged (jobs others : List Job) (rearranged : jobs.Perm others) :
    Alike SameGraph (resolve jobs) (resolve others) := by
  rcases sound_or_fault jobs with sound | ⟨kind, fault⟩
  · have again := sound_perm rearranged sound
    rw [resolve_sound sound, resolve_sound again]
    exact .succeed (graph_alike rearranged sound again)
  · obtain ⟨failure, failed, same⟩ := resolve_fault fault
    obtain ⟨other, stopped, equal⟩ := resolve_fault (fault_perm rearranged fault)
    rw [failed, stopped]
    exact .fail (same.trans equal.symm)

def turnedEdges : List Edge :=
  [⟨"jdk", "image", ["jdk"]⟩, ⟨"image", "test", ["image"]⟩, ⟨"jdk", "test", ["jdk"]⟩]

theorem shelf_rearranged : shelf.Perm shelf.reverse ∧ Alike SameGraph (resolve shelf) (resolve shelf.reverse) ∧
    resolve shelf = .ok ⟨shelf, shelfEdges⟩ ∧ graphOf shelf.reverse = ⟨shelf.reverse, turnedEdges⟩ ∧
    (⟨shelf, shelfEdges⟩ : Pipeline).levels = .ok [["jdk", "manual"], ["image"], ["test"]] ∧
    (⟨shelf.reverse, turnedEdges⟩ : Pipeline).levels = .ok [["manual", "jdk"], ["image"], ["test"]] := by
  have rearranged : shelf.Perm shelf.reverse := (List.reverse_perm shelf).symm
  have turned : (⟨shelf.reverse, turnedEdges⟩ : Pipeline).levels = .ok [["manual", "jdk"], ["image"], ["test"]] := by cbv
  exact ⟨rearranged, resolve_rearranged _ _ rearranged, shelf_resolved, rfl, shelf_levels, turned⟩

end Pipeline
end BuildMatrix
