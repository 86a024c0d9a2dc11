import BuildMatrix.Proofs.Resolution.Stuck
import BuildMatrix.Proofs.Sorting

namespace BuildMatrix

-- Names that occur more than once, each told once and in increasing order.
structure Recurring (names told : List String) : Prop where
  members : ∀ name, name ∈ told ↔ 1 < names.count name
  increasing : told.Pairwise (· < ·)

-- The second use is the first of an artifact that was used before it, and the first is
-- that use: up to there no artifact comes twice, so that none is earlier.
def FirstRepeat (uses : List ArtifactUse) (first second : ArtifactUse) : Prop :=
  ∃ passed after, uses = passed ++ second :: after ∧ (passed.map ArtifactUse.artifact).Nodup ∧
    first ∈ passed ∧ first.artifact = second.artifact

theorem recurring_repeated (names : List String) : Recurring names (repeatedNames names) := by
  have members : ∀ name, name ∈ repeatedNames names ↔ 1 < names.count name := by
    intro name
    have present : 1 < names.count name → name ∈ names := fun twice => List.count_pos_iff.mp (by omega)
    simpa [repeatedNames] using present
  refine ⟨members, ?_⟩
  have ordered : (repeatedNames names).Pairwise (· ≤ ·) := sorted_by id _
  have distinct : (repeatedNames names).Nodup := (List.mergeSort_perm _ _).nodup_iff.mpr (eraseDups_nodup _)
  exact ordered.imp₂ (fun _ _ before other => lt_of_le_of_ne before other) distinct

theorem recurring_exact {names told : List String} : Recurring names told ↔ repeatedNames names = told := by
  constructor
  · intro recurring
    have listed := recurring_repeated names
    refine listed.increasing.eq_of_mem_iff recurring.increasing fun name => ?_
    rw [listed.members, recurring.members]
  · rintro rfl
    exact recurring_repeated names

-- The scan goes on as long as what it has passed holds no artifact twice.
theorem firstRepetition?_some {earlier uses : List ArtifactUse} {first second : ArtifactUse}
    (distinct : (earlier.map ArtifactUse.artifact).Nodup) : firstRepetition? earlier uses = some (first, second) ↔
      ∃ passed after, uses = passed ++ second :: after ∧ ((earlier ++ passed).map ArtifactUse.artifact).Nodup ∧
        first ∈ earlier ++ passed ∧ first.artifact = second.artifact := by
  induction uses generalizing earlier with
  | nil => simp [firstRepetition?]
  | cons use rest ih =>
      unfold firstRepetition?
      cases found : earlier.find? fun before => before.artifact == use.artifact with
      | some before =>
          have held := List.mem_of_find?_eq_some found
          have same : before.artifact = use.artifact := by simpa using List.find?_some found
          simp only [Option.some.injEq, Prod.mk.injEq]
          constructor
          · rintro ⟨rfl, rfl⟩
            exact ⟨[], rest, rfl, by simpa using distinct, by simpa using held, same⟩
          · rintro ⟨passed, after, split, apart, present, equal⟩
            cases passed with
            | nil =>
                cases split
                rw [List.append_nil] at present
                exact ⟨List.inj_on_of_nodup_map distinct held present (same.trans equal.symm), rfl⟩
            | cons next passed =>
                cases split
                -- The use that the scan has stopped at cannot have been passed.
                rw [List.map_append, List.nodup_append] at apart
                exact absurd same (apart.2.2 _ (List.mem_map_of_mem held) _ (by simp))
      | none =>
          have fresh : ∀ before ∈ earlier, before.artifact ≠ use.artifact := by
            simpa using List.find?_eq_none.mp found
          have longer : ((earlier ++ [use]).map ArtifactUse.artifact).Nodup := by
            simpa [List.nodup_append, distinct] using fresh
          dsimp only
          rw [ih longer]
          constructor
          · rintro ⟨passed, after, rfl, apart, present, equal⟩
            exact ⟨use :: passed, after, rfl, by simpa using apart, by simpa using present, equal⟩
          · rintro ⟨passed, after, split, apart, present, equal⟩
            cases passed with
            | nil =>
                cases split
                rw [List.append_nil] at present
                exact absurd equal (fresh first present)
            | cons next passed =>
                cases split
                exact ⟨passed, after, rfl, by simpa using apart, by simpa using present, equal⟩

theorem firstRepeat_exact {uses : List ArtifactUse} {first second : ArtifactUse} :
    FirstRepeat uses first second ↔ firstRepetition? [] uses = some (first, second) :=
  (@firstRepetition?_some [] uses first second List.nodup_nil).symm

namespace Pipeline

variable {jobs : List Job} {pipeline : Pipeline} {told others : List String}

theorem stalled_unique (one : pipeline.Stalled told) (other : pipeline.Stalled others) : told = others := by
  have irreflexive : Std.Irrefl fun one other => pipeline.names.idxOf one < pipeline.names.idxOf other :=
    ⟨fun _ => Nat.lt_irrefl _⟩
  have antisymmetric : Std.Antisymm fun one other => pipeline.names.idxOf one < pipeline.names.idxOf other :=
    ⟨fun _ _ less more => absurd less (Nat.lt_asymm more)⟩
  refine one.ordered.eq_of_mem_iff other.ordered fun name => ?_
  rw [one.trapped, other.trapped]

theorem stalled_cyclic (stalled : pipeline.Stalled told) : ¬Acyclic pipeline.edges := by
  obtain ⟨name, present⟩ := List.exists_mem_of_ne_nil told stalled.inhabited
  obtain ⟨_, place, cycle, _⟩ := (stalled.trapped name).mp present
  exact fun acyclic => acyclic place cycle

def listing (names : List String) : String :=
  if ", ".intercalate names = "" then "none" else ", ".intercalate names

inductive Blamed (jobs : List Job) : Report → Prop where
  | names {told : List String} : Recurring (jobs.map Job.name) told → told ≠ [] →
      Blamed jobs {
        kind := .configuration
        message := "duplicate job names"
        details := [("jobs", ", ".intercalate told)] }
  | producers {first second : ArtifactUse} : DistinctNames jobs → FirstRepeat (publicationsOf jobs) first second →
      Blamed jobs {
        kind := .duplicateProducer
        message := "artifact " ++ Text.quoted second.artifact ++ " has more than one producer"
        details := [("artifact", second.artifact), ("producers", first.job ++ ", " ++ second.job)] }
  | requirements {requirement : ArtifactUse} : DistinctNames jobs → SingleProducers jobs →
      FirstUnmet jobs requirement →
      Blamed jobs {
        kind := .unresolvedArtifact
        message := "job " ++ Text.quoted requirement.job ++ " requires artifact "
          ++ Text.quoted requirement.artifact ++ " but no job publishes it"
        details := [("job", requirement.job), ("artifact", requirement.artifact),
          ("published", listing (jobs.flatMap Job.publishedNames))] }
  | cycle {told : List String} : DistinctNames jobs → SingleProducers jobs → AllPublished jobs →
      (graphOf jobs).Stalled told →
      Blamed jobs {
        kind := .cyclicDependency
        message := "artifact dependencies form a cycle"
        details := [("stuck", ", ".intercalate told)] }

theorem orNone_listing (names : List String) : Failure.orNone (Failure.commas names) = listing names := by
  simp [Failure.orNone, Failure.commas, listing]

theorem failure_blamed {failure : Failure} (failed : resolve jobs = .error failure) : Blamed jobs failure.report := by
  by_cases distinct : DistinctNames jobs
  · by_cases single : SingleProducers jobs
    · by_cases published : AllPublished jobs
      · by_cases cyclic : Acyclic (graphOf jobs).edges
        · rw [resolve_sound ⟨distinct, single, published, (acyclic_graph distinct single).mp cyclic⟩] at failed
          cases failed
        · obtain ⟨told, stopped, stalled⟩ := resolve_stalled distinct single published cyclic
          cases stopped.symm.trans failed
          exact .cycle distinct single published stalled
      · obtain ⟨requirement, unmet⟩ := unmet_exists published
        cases (resolve_requirements distinct single unmet).symm.trans failed
        have blamed := Blamed.requirements distinct single unmet
        rw [← orNone_listing] at blamed
        exact blamed
    · obtain ⟨first, second, found, stopped⟩ := resolve_artifacts distinct single
      cases stopped.symm.trans failed
      exact .producers distinct (firstRepeat_exact.mpr found)
  · cases (resolve_names distinct).symm.trans failed
    refine .names (recurring_repeated _) ?_
    rwa [Ne, repeatedNames_nil]

theorem blamed_failure {report : Report} (blamed : Blamed jobs report) :
    ∃ failure, resolve jobs = .error failure ∧ failure.report = report := by
  cases blamed with
  | @names told recurring filled =>
      have listed := recurring_exact.mp recurring
      have repeated : ¬DistinctNames jobs := by
        rwa [DistinctNames, ← repeatedNames_nil, listed]
      exact ⟨_, resolve_names repeated, by rw [listed]; rfl⟩
  | producers distinct twice =>
      have found := firstRepeat_exact.mp twice
      have repeated : ¬SingleProducers jobs := by
        rw [← firstRepetition_free, found]
        simp
      obtain ⟨first, second, again, stopped⟩ := resolve_artifacts distinct repeated
      cases found.symm.trans again
      exact ⟨_, stopped, rfl⟩
  | requirements distinct single unmet =>
      exact ⟨_, resolve_requirements distinct single unmet, by rw [← orNone_listing]; rfl⟩
  | cycle distinct single published stalled =>
      obtain ⟨told, stopped, again⟩ := resolve_stalled distinct single published (stalled_cyclic stalled)
      exact ⟨_, stopped, by rw [stalled_unique stalled again]; rfl⟩

-- A list of jobs is refused with one report, and it tells the first thing that is wrong
-- with the whole list: names that recur, an artifact with two producers, a requirement
-- that nobody fulfils, or the jobs that a cycle holds up.
theorem resolve_blames (jobs : List Job) (report : Report) :
    (∃ failure, resolve jobs = .error failure ∧ failure.report = report) ↔ Blamed jobs report := by
  constructor
  · rintro ⟨failure, failed, rfl⟩
    exact failure_blamed failed
  · exact blamed_failure

-- The job that publishes an artifact twice is told twice, though a later job has it too.
example : (resolve [.declaring "one" ["x", "y", "x"] [], .declaring "two" ["y"] ["z"]]).map Pipeline.names =
    .error (.repeatedArtifact "x" "one" "one") := by cbv

end Pipeline
end BuildMatrix
