import BuildMatrix.Proofs.FirstSeen
import BuildMatrix.Proofs.Graph.Peeling

namespace BuildMatrix

def LastAt (names : List String) (name : String) (place : Nat) : Prop :=
  names[place]? = some name ∧ ∀ later, place < later → names[later]? ≠ some name

def StandsBefore (names : List String) (one other : String) : Prop :=
  ∃ place further, LastAt names one place ∧ LastAt names other further ∧ place < further

theorem lastAt_cons {names : List String} {name first : String} {place : Nat} (last : LastAt names name place) :
    LastAt (first :: names) name (place + 1) := by
  refine ⟨by simpa using last.1, ?_⟩
  intro later less
  cases later with
  | zero => omega
  | succ later => simpa using last.2 later (Nat.lt_of_succ_lt_succ less)

theorem lastAt_head {names : List String} {name : String} (last : name ∉ names) :
    LastAt (name :: names) name 0 := by
  refine ⟨rfl, ?_⟩
  intro later less found
  cases later with
  | zero => omega
  | succ later => exact last (List.mem_of_getElem? (by simpa using found))

theorem lastSeen_cons (name : String) (names : List String) :
    lastSeen (name :: names) = if name ∈ names then lastSeen names else name :: lastSeen names := by
  unfold lastSeen
  rw [List.reverse_cons, eraseDups_concat]
  by_cases present : name ∈ names
  · simp [present]
  · simp [present]

theorem mem_lastSeen {name : String} {names : List String} : name ∈ lastSeen names ↔ name ∈ names := by
  simp [lastSeen, List.mem_eraseDups]

theorem lastSeen_nodup (names : List String) : (lastSeen names).Nodup := by
  unfold lastSeen List.Nodup
  rw [List.pairwise_reverse]
  exact (eraseDups_nodup _).imp Ne.symm

theorem lastSeen_distinct {names : List String} (distinct : names.Nodup) : lastSeen names = names := by
  unfold lastSeen
  rw [eraseDups_distinct (List.nodup_reverse.mpr distinct), List.reverse_reverse]

theorem inhabited_stages {levels : List (List String)} (inhabited : ∀ level ∈ levels, level ≠ [])
    {stage : Nat → List String} (each : ∀ number, levels.getD number [] = stage number) {count : Nat}
    (bound : ∀ number, count ≤ number → stage number = []) :
    ((List.range count).map stage).filter (fun level => !level.isEmpty) = levels := by
  induction levels generalizing stage count with
  | nil =>
      rw [List.filter_eq_nil_iff]
      intro level listed
      obtain ⟨number, _, rfl⟩ := List.mem_map.mp listed
      simp [← each number]
  | cons level rest ih =>
      obtain ⟨filled, others⟩ := List.forall_mem_cons.mp inhabited
      have first : stage 0 = level := (each 0).symm
      cases count with
      | zero => exact False.elim (filled (first ▸ bound 0 (Nat.le_refl 0)))
      | succ count =>
          rw [List.range_succ_eq_map, List.map_cons, List.map_map, first,
            List.filter_cons_of_pos (by simpa using filled)]
          congr 1
          exact ih others (fun number => each (number + 1)) fun number enough => bound _ (Nat.succ_le_succ enough)

theorem lastSeen_placed (names : List String) : ∀ name ∈ lastSeen names, ∃ place, LastAt names name place := by
  induction names with
  | nil => simp [lastSeen]
  | cons first names ih =>
      intro name present
      rw [lastSeen_cons] at present
      split at present
      · obtain ⟨place, last⟩ := ih name present
        exact ⟨place + 1, lastAt_cons last⟩
      · rename_i fresh
        rcases List.mem_cons.mp present with rfl | later
        · exact ⟨0, lastAt_head fresh⟩
        · obtain ⟨place, last⟩ := ih name later
          exact ⟨place + 1, lastAt_cons last⟩

theorem lastSeen_ordered (names : List String) : (lastSeen names).Pairwise (StandsBefore names) := by
  induction names with
  | nil => exact .nil
  | cons first names ih =>
      have shifted : (lastSeen names).Pairwise (StandsBefore (first :: names)) := by
        refine ih.imp ?_
        rintro one other ⟨place, further, before, after, less⟩
        exact ⟨place + 1, further + 1, lastAt_cons before, lastAt_cons after, Nat.succ_lt_succ less⟩
      rw [lastSeen_cons]
      split
      · exact shifted
      · rename_i fresh
        refine List.pairwise_cons.mpr ⟨?_, shifted⟩
        intro other present
        obtain ⟨place, last⟩ := lastSeen_placed names other present
        exact ⟨0, place + 1, lastAt_head fresh, lastAt_cons last, Nat.succ_pos _⟩

namespace Pipeline

variable {pipeline : Pipeline} {levels : List (List String)}

-- What may be relied on in a list of stages, whichever way it came about.
structure Staged (pipeline : Pipeline) (levels : List (List String)) : Prop where
  once : levels.flatten.Nodup
  complete : ∀ name, name ∈ levels.flatten ↔ name ∈ pipeline.names
  depth : ∀ level name, name ∈ levels.getD level [] ↔
    name ∈ pipeline.names ∧ LongestChain pipeline.edges level name
  forward : ∀ edge ∈ pipeline.edges, ∃ earlier later, earlier < later ∧
    edge.producer ∈ levels.getD earlier [] ∧ edge.consumer ∈ levels.getD later []
  apart : ∀ level ∈ levels, ∀ one ∈ level, ∀ other ∈ level, ¬Leads pipeline.edges one other
  inhabited : ∀ level ∈ levels, level ≠ []
  ordered : ∀ level ∈ levels, level.Pairwise (StandsBefore pipeline.names)

def Known (pipeline : Pipeline) : Prop := ∀ name ∈ pipeline.edgeEnds, name ∈ pipeline.names

theorem known_ends (known : pipeline.Known) {edge : Edge} (present : edge ∈ pipeline.edges) :
    edge.producer ∈ pipeline.names ∧ edge.consumer ∈ pipeline.names := by
  constructor
  · exact known _ (List.mem_flatMap.mpr ⟨edge, present, by simp⟩)
  · exact known _ (List.mem_flatMap.mpr ⟨edge, present, by simp⟩)

theorem known_comeFrom (known : pipeline.Known) : ComeFrom pipeline.edges (lastSeen pipeline.names) :=
  fun _ present => mem_lastSeen.mpr (known_ends known present).1

theorem levels_known (known : pipeline.Known) : pipeline.levels =
    if (peel pipeline.edges (lastSeen pipeline.names)).stuck.isEmpty then
      .ok (peel pipeline.edges (lastSeen pipeline.names)).levels
    else .error (.cyclic ((firstSeen pipeline.names).filter
      (peel pipeline.edges (lastSeen pipeline.names)).stuck.contains)) := by
  have found : (pipeline.edgeEnds.find? fun name => !pipeline.names.contains name) = none := by
    apply List.find?_eq_none.mpr
    intro name present
    simpa using known name present
  simp only [Pipeline.levels, found]

theorem levels_ok (known : pipeline.Known) : pipeline.levels = .ok levels ↔
    Acyclic pipeline.edges ∧ levels = (peel pipeline.edges (lastSeen pipeline.names)).levels := by
  rw [levels_known known, ← peel_complete (known_comeFrom known), ← List.isEmpty_iff]
  split
  · rename_i free
    simp [free, eq_comm]
  · rename_i stuck
    simp [stuck]

theorem levels_error {failure : Failure} (known : pipeline.Known) (failed : pipeline.levels = .error failure) :
    ¬Acyclic pipeline.edges ∧ failure = .cyclic ((firstSeen pipeline.names).filter
      (peel pipeline.edges (lastSeen pipeline.names)).stuck.contains) := by
  rw [levels_known known] at failed
  split at failed
  · cases failed
  · rename_i stuck
    refine ⟨?_, (Except.error.inj failed).symm⟩
    rw [← peel_complete (known_comeFrom known), ← List.isEmpty_iff]
    exact stuck

theorem level_at {level : List String} (listed : level ∈ levels) : ∃ place, levels.getD place [] = level := by
  obtain ⟨place, within, rfl⟩ := List.getElem_of_mem listed
  exact ⟨place, by simp [within]⟩

theorem peel_staged (known : pipeline.Known) (acyclic : Acyclic pipeline.edges) :
    pipeline.Staged (peel pipeline.edges (lastSeen pipeline.names)).levels := by
  have closed := known_comeFrom known
  have all := peel_perm pipeline.edges (lastSeen pipeline.names)
  rw [(peel_complete closed).mpr acyclic, List.append_nil] at all
  have depth : ∀ level name, name ∈ (peel pipeline.edges (lastSeen pipeline.names)).levels.getD level [] ↔
      name ∈ pipeline.names ∧ LongestChain pipeline.edges level name := by
    intro level name
    rw [peel_level closed, mem_lastSeen]
  have placed : ∀ name ∈ pipeline.names, ∃ level,
      name ∈ (peel pipeline.edges (lastSeen pipeline.names)).levels.getD level [] := by
    intro name present
    obtain ⟨held, listed, inside⟩ := List.mem_flatten.mp (all.mem_iff.mpr (mem_lastSeen.mpr present))
    obtain ⟨level, rfl⟩ := level_at listed
    exact ⟨level, inside⟩
  refine ⟨all.nodup_iff.mpr (lastSeen_nodup _), ?_, depth, ?_, ?_, peel_nonempty _ _, ?_⟩
  · intro name
    rw [all.mem_iff, mem_lastSeen]
  · intro edge present
    obtain ⟨earlier, before⟩ := placed _ (known_ends known present).1
    obtain ⟨later, after⟩ := placed _ (known_ends known present).2
    exact ⟨earlier, later, longest_increases (leads_of_mem present) ((depth _ _).mp before).2
      ((depth _ _).mp after).2, before, after⟩
  · intro held listed one first other second step
    obtain ⟨level, rfl⟩ := level_at listed
    have before := ((depth level one).mp first).2
    have after := ((depth level other).mp second).2
    exact Nat.lt_irrefl _ (longest_increases step before after)
  · intro level listed
    exact (lastSeen_ordered pipeline.names).sublist (peel_sublist _ _ level listed)

-- Where jobs have names of their own, a stage holds the jobs of one rank, in
-- pipeline order, if the rank of a job is the length of the longest walk to it.
theorem levels_ranked (known : pipeline.Known) (distinct : pipeline.names.Nodup) (acyclic : Acyclic pipeline.edges)
    {rank : Job → Nat} (longest : ∀ job ∈ pipeline.jobs, LongestChain pipeline.edges (rank job) job.name)
    {count : Nat} (bound : ∀ job ∈ pipeline.jobs, rank job < count) :
    pipeline.levels = .ok (((List.range count).map fun number =>
      (pipeline.jobs.filter fun job => rank job = number).map Job.name).filter fun level => !level.isEmpty) := by
  refine (levels_ok known).mpr ⟨acyclic, inhabited_stages (peel_nonempty _ _) ?_ ?_⟩
  · intro number
    have within := peel_round_sublist pipeline.edges (lastSeen pipeline.names) number
    refine sublist_same (lastSeen_nodup pipeline.names) within ?_ ?_
    · rw [lastSeen_distinct distinct]
      exact List.filter_sublist.map Job.name
    · intro name
      rw [peel_level (known_comeFrom known), mem_lastSeen]
      simp only [List.mem_map, List.mem_filter, decide_eq_true_eq]
      constructor
      · rintro ⟨present, walk⟩
        obtain ⟨job, held, rfl⟩ := List.mem_map.mp present
        exact ⟨job, ⟨held, longest_unique (longest job held) walk⟩, rfl⟩
      · rintro ⟨job, ⟨held, rfl⟩, rfl⟩
        exact ⟨List.mem_map_of_mem held, longest job held⟩
  · intro number enough
    rw [List.map_eq_nil_iff, List.filter_eq_nil_iff]
    intro job held same
    have less := bound job held
    rw [of_decide_eq_true same] at less
    omega

-- A pipeline whose edges name its own jobs has stages unless a cycle runs
-- through it, and the stage of a job counts the edges that lead up to it.
theorem levels_exact (pipeline : Pipeline) (known : pipeline.Known) :
    ((∃ levels, pipeline.levels = .ok levels) ↔ Acyclic pipeline.edges) ∧
    (∀ failure, pipeline.levels = .error failure → failure.report.kind = .cyclicDependency) ∧
    ∀ levels, pipeline.levels = .ok levels → pipeline.Staged levels := by
  refine ⟨?_, ?_, ?_⟩
  · constructor
    · rintro ⟨levels, computed⟩
      exact ((levels_ok known).mp computed).1
    · intro acyclic
      exact ⟨_, (levels_ok known).mpr ⟨acyclic, rfl⟩⟩
  · intro failure failed
    rw [(levels_error known failed).2]
    rfl
  · intro levels computed
    obtain ⟨acyclic, rfl⟩ := (levels_ok known).mp computed
    exact peel_staged known acyclic

end Pipeline

def Job.declaring (name : String) (publishes requires : List String) : Job where
  name := name
  kind := "run-only"
  os := .linux
  arch := "amd64"
  timelimit := .text "0:10:00"
  run := []
  publishes := publishes.map fun artifact => { name := artifact }
  requires := requires.map fun artifact => { name := artifact }

namespace Pipeline

def braid : Pipeline where
  jobs := [.declaring "b" [] [], .declaring "a" [] [], .declaring "c" [] [], .declaring "b" [] []]
  edges := [⟨"a", "c", []⟩, ⟨"a", "b", ["x"]⟩, ⟨"a", "b", ["y"]⟩, ⟨"b", "c", []⟩]

theorem braid_staged : braid.Known ∧ braid.levels = .ok [["a"], ["b"], ["c"]] ∧
    braid.Staged [["a"], ["b"], ["c"]] := by
  have known : braid.Known := by
    unfold Known
    decide
  have computed : braid.levels = .ok [["a"], ["b"], ["c"]] := by cbv
  exact ⟨known, computed, (levels_exact braid known).2.2 _ computed⟩

end Pipeline
end BuildMatrix
