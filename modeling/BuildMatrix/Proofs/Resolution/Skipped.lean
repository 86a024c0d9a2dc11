import BuildMatrix.Proofs.Graph.Reachability
import BuildMatrix.Proofs.Resolution.Edges
import Mathlib.Data.List.Flatten

namespace BuildMatrix

variable {jobs part : List Job} {removed : List String} {one other : Job}

-- What can be said of some of the jobs when all of them are sound. Only what is
-- required may get lost with the others.

theorem feeds_part (within : part.Sublist jobs) (fed : Feeds part one other) : Feeds jobs one other :=
  ⟨within.subset fed.1, within.subset fed.2.1, fed.2.2⟩

theorem cycleFree_part (within : part.Sublist jobs) (free : CycleFree jobs) : CycleFree part :=
  fun job path => free job (path.lift id fun _ _ fed => feeds_part within fed)

theorem sound_part (within : part.Sublist jobs) (sound : Pipeline.Sound jobs) :
    Pipeline.Sound part ↔ AllPublished part := by
  constructor
  · exact Pipeline.Sound.requirements
  · intro published
    exact {
      names := sound.names.sublist (within.map Job.name)
      producers := sound.producers.sublist (within.flatMap Job.publishedNames)
      requirements := published
      cycle := cycleFree_part within sound.cycle }

theorem same_producer (sound : Pipeline.Sound jobs) (first : one ∈ jobs) (second : other ∈ jobs) {artifact : String}
    (left : artifact ∈ one.publishedNames) (right : artifact ∈ other.publishedNames) : one = other := by
  have called := (producer_published sound first artifact).mpr left
  have named := (producer_published sound second artifact).mpr right
  exact same_job sound.names first second (Option.some.inj (called.symm.trans named))

def Sustained (jobs part : List Job) : Prop :=
  ∀ producer consumer, Feeds jobs producer consumer → consumer ∈ part → producer ∈ part

-- An artifact has no second producer, so no other job can stand in for one that
-- is missing.
theorem sustained_sound (within : part.Sublist jobs) (sound : Pipeline.Sound jobs) :
    Pipeline.Sound part ↔ Sustained jobs part := by
  rw [sound_part within sound]
  constructor
  · rintro published producer consumer ⟨first, second, artifact, given, required⟩ kept
    obtain ⟨source, held, offered⟩ := published consumer kept artifact required
    exact same_producer sound (within.subset held) first offered given ▸ held
  · intro sustained consumer kept artifact required
    have second := within.subset kept
    obtain ⟨source, first, offered⟩ := sound.requirements consumer second artifact required
    exact ⟨source, sustained source consumer ⟨first, second, artifact, offered, required⟩ kept, offered⟩

def without (jobs : List Job) (removed : List String) : List Job :=
  jobs.filter fun job => !removed.contains job.name

theorem without_sublist : (without jobs removed).Sublist jobs := List.filter_sublist

theorem mem_without : one ∈ without jobs removed ↔ one ∈ jobs ∧ one.name ∉ removed := by
  simp [without]

def Severed (jobs : List Job) (removed : List String) : Prop :=
  ∀ producer consumer, Feeds jobs producer consumer → producer.name ∈ removed → consumer.name ∈ removed

theorem severed_sound (sound : Pipeline.Sound jobs) : Pipeline.Sound (without jobs removed) ↔ Severed jobs removed := by
  rw [sustained_sound without_sublist sound]
  constructor
  · intro sustained producer consumer fed gone
    apply Classical.byContradiction
    intro left
    have stays := sustained producer consumer fed (mem_without.mpr ⟨fed.2.1, left⟩)
    exact (mem_without.mp stays).2 gone
  · intro severed producer consumer fed kept
    have left := (mem_without.mp kept).2
    exact mem_without.mpr ⟨fed.1, fun gone => left (severed producer consumer fed gone)⟩

theorem severed_reaches (sound : Pipeline.Sound jobs) (severed : Severed jobs removed) {name further : String}
    (path : Reaches (graphOf jobs).edges name further) (gone : name ∈ removed) : further ∈ removed := by
  induction path with
  | single step =>
      obtain ⟨producer, consumer, fed, rfl, rfl⟩ := (leads_graph sound.producers).mp step
      exact severed producer consumer fed gone
  | tail _ step ih =>
      obtain ⟨producer, consumer, fed, rfl, rfl⟩ := (leads_graph sound.producers).mp step
      exact severed producer consumer fed ih

namespace Pipeline

variable {pipeline : Pipeline} {name : String} {listed : List String}

theorem beyond_severed (sound : Sound jobs) (beyond : (graphOf jobs).Beyond name listed) :
    Severed jobs (name :: listed) := by
  intro producer consumer fed gone
  have step : Leads (graphOf jobs).edges producer.name consumer.name :=
    (leads_graph sound.producers).mpr ⟨producer, consumer, fed, rfl, rfl⟩
  have held : consumer.name ∈ (graphOf jobs).names := List.mem_map_of_mem fed.2.1
  refine List.mem_cons_of_mem _ ((beyond.reached _).mpr ⟨held, ?_⟩)
  rcases List.mem_cons.mp gone with same | further
  · exact .single (same ▸ step)
  · exact ((beyond.reached _).mp further).2.tail step

theorem resolved_iff : (∃ pipeline, resolve jobs = .ok pipeline) ↔ Sound jobs := by
  constructor
  · rintro ⟨pipeline, resolved⟩
    exact (resolve_ok.mp resolved).1
  · intro sound
    exact ⟨_, resolve_sound sound⟩

theorem resolved_acyclic (resolved : resolve jobs = .ok pipeline) : Acyclic pipeline.edges := by
  obtain ⟨sound, rfl⟩ := resolve_ok.mp resolved
  exact (acyclic_graph sound.names sound.producers).mpr sound.cycle

-- Whatever a pipeline looks like, the jobs beyond one of its names are found; a
-- name that no job has is refused. A job is beyond itself on a cycle only, and
-- in a pipeline made from artifacts it never is.
theorem dependents_exact (pipeline : Pipeline) (name : String) :
    (name ∉ pipeline.names → ∃ failure, pipeline.transitiveDependents name = .error failure ∧
      failure.report.kind = .missingKey ∧ failure.report.message = name) ∧
    (name ∈ pipeline.names → ∃ listed, pipeline.transitiveDependents name = .ok listed ∧
      pipeline.Beyond name listed ∧
      (name ∈ listed ↔ Reaches pipeline.edges name name) ∧
      ((∃ jobs, resolve jobs = .ok pipeline) → name ∉ listed)) := by
  constructor
  · intro absent
    exact ⟨_, transitiveDependents_unknown absent, rfl, rfl⟩
  · intro present
    have beyond := filter_beyond pipeline name
    have itself : name ∈ pipeline.names.filter (reached pipeline.edges [name]).contains ↔
        Reaches pipeline.edges name name := by
      rw [beyond.reached]
      exact and_iff_right present
    refine ⟨_, transitiveDependents_known present, beyond, itself, ?_⟩
    rintro ⟨jobs, resolved⟩ cyclic
    exact resolved_acyclic resolved name (itself.mp cyclic)

def shelf : List Job := [
  .declaring "test" [] ["image", "jdk"],
  .declaring "jdk" ["jdk"] [],
  .declaring "manual" [] [],
  .declaring "image" ["image"] ["jdk"]]

def shelfEdges : List Edge :=
  [⟨"image", "test", ["image"]⟩, ⟨"jdk", "test", ["jdk"]⟩, ⟨"jdk", "image", ["jdk"]⟩]

theorem shelf_levels : (⟨shelf, shelfEdges⟩ : Pipeline).levels = .ok [["jdk", "manual"], ["image"], ["test"]] := by cbv

theorem shelf_resolved : resolve shelf = .ok ⟨shelf, shelfEdges⟩ := by
  have distinct : DistinctNames shelf := by unfold DistinctNames; decide
  have single : SingleProducers shelf := by unfold SingleProducers; decide
  have published : AllPublished shelf := by unfold AllPublished; decide
  have drawn : graphOf shelf = ⟨shelf, shelfEdges⟩ := rfl
  rw [resolve_graph distinct single published, drawn, shelf_levels]
  rfl

def knot : Pipeline where
  jobs := [.declaring "c" [] [], .declaring "a" [] [], .declaring "b" [] [], .declaring "c" [] [], .declaring "d" [] []]
  edges := [⟨"a", "lost", []⟩, ⟨"lost", "c", []⟩, ⟨"c", "b", []⟩, ⟨"c", "b", []⟩, ⟨"b", "c", []⟩, ⟨"d", "a", []⟩]

theorem knot_dependents : "lost" ∉ knot.names ∧ "c" ∈ knot.names ∧
    (∃ failure, knot.transitiveDependents "lost" = .error failure ∧ failure.report.kind = .missingKey) ∧
    knot.transitiveDependents "c" = .ok ["c", "b", "c"] ∧ knot.Beyond "c" ["c", "b", "c"] ∧
    Reaches knot.edges "c" "c" ∧ (∃ jobs, resolve jobs = .ok ⟨shelf, shelfEdges⟩) ∧
    ∃ listed, (⟨shelf, shelfEdges⟩ : Pipeline).transitiveDependents "image" = .ok listed ∧ "image" ∉ listed := by
  have absent : "lost" ∉ knot.names := by decide
  have present : "c" ∈ knot.names := by decide
  have computed : knot.transitiveDependents "c" = .ok ["c", "b", "c"] := by cbv
  obtain ⟨failure, failed, kind, _⟩ := (dependents_exact knot "lost").1 absent
  obtain ⟨listed, found, beyond, itself, _⟩ := (dependents_exact knot "c").2 present
  rw [computed] at found
  cases found
  have held : "image" ∈ (⟨shelf, shelfEdges⟩ : Pipeline).names := by decide
  obtain ⟨later, followed, _, _, acyclic⟩ := (dependents_exact ⟨shelf, shelfEdges⟩ "image").2 held
  exact ⟨absent, present, ⟨failure, failed, kind⟩, computed, beyond, itself.mp (by decide),
    ⟨shelf, shelf_resolved⟩, later, followed, acyclic ⟨shelf, shelf_resolved⟩⟩

-- When a job fails, it and the jobs beyond it can be taken away and the others
-- resolve; and no fewer can go with it.
theorem skipped_least (jobs : List Job) (pipeline : Pipeline) (resolved : resolve jobs = .ok pipeline)
    (name : String) (present : name ∈ jobs.map Job.name) :
    ∃ beyond, pipeline.transitiveDependents name = .ok beyond ∧
      (∃ rest, resolve (without jobs (name :: beyond)) = .ok rest) ∧
      ∀ removed : List String, name ∈ removed → (∃ rest, resolve (without jobs removed) = .ok rest) →
        ∀ skipped ∈ name :: beyond, skipped ∈ removed := by
  obtain ⟨sound, rfl⟩ := resolve_ok.mp resolved
  have beyond := filter_beyond (graphOf jobs) name
  refine ⟨_, transitiveDependents_known present, ?_, ?_⟩
  · exact resolved_iff.mpr ((severed_sound sound).mpr (beyond_severed sound beyond))
  · intro removed gone left skipped listed
    have severed := (severed_sound sound).mp (resolved_iff.mp left)
    rcases List.mem_cons.mp listed with rfl | further
    · exact gone
    · exact severed_reaches sound severed ((beyond.reached _).mp further).2 gone

theorem shelf_skipped : resolve shelf = .ok ⟨shelf, shelfEdges⟩ ∧ "image" ∈ shelf.map Job.name ∧
    (∃ rest, resolve (without shelf ["image", "test"]) = .ok rest) ∧
    ∀ removed : List String, "image" ∈ removed → (∃ rest, resolve (without shelf removed) = .ok rest) →
      ∀ skipped ∈ ["image", "test"], skipped ∈ removed := by
  have present : "image" ∈ shelf.map Job.name := by decide
  have computed : (⟨shelf, shelfEdges⟩ : Pipeline).transitiveDependents "image" = .ok ["test"] := by cbv
  obtain ⟨beyond, found, rest, least⟩ := skipped_least shelf _ shelf_resolved "image" present
  rw [computed] at found
  cases found
  exact ⟨shelf_resolved, present, rest, least⟩

end Pipeline
end BuildMatrix
