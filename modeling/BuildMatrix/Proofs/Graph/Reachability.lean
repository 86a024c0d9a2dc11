import BuildMatrix.Pipeline.Downstream
import BuildMatrix.Proofs.Graph.Chains

namespace BuildMatrix

variable {edges : List Edge} {sources : List String} {producer consumer name : String}

def ReachedFrom (edges : List Edge) (sources : List String) (name : String) : Prop :=
  ∃ source ∈ sources, Reaches edges source name

def met (edges : List Edge) (sources : List String) : List String := (edgesFrom sources edges).map Edge.consumer

theorem mem_met : name ∈ met edges sources ↔ ∃ source ∈ sources, Leads edges source name := by
  simp only [met, edgesFrom, List.mem_map, List.mem_filter, List.contains_iff_mem]
  constructor
  · rintro ⟨edge, ⟨held, listed⟩, rfl⟩
    exact ⟨edge.producer, listed, leads_of_mem held⟩
  · rintro ⟨source, listed, edge, held, rfl, rfl⟩
    exact ⟨edge, ⟨held, listed⟩, rfl⟩

theorem leads_elsewhere : Leads (edgesElsewhere sources edges) producer consumer ↔
    Leads edges producer consumer ∧ producer ∉ sources := by
  simp only [Leads, edgesElsewhere, List.mem_filter, Bool.not_eq_true', ← Bool.not_eq_true, List.contains_iff_mem]
  constructor
  · rintro ⟨edge, ⟨held, foreign⟩, rfl, rfl⟩
    exact ⟨⟨edge, held, rfl, rfl⟩, foreign⟩
  · rintro ⟨⟨edge, held, rfl, rfl⟩, foreign⟩
    exact ⟨edge, ⟨held, foreign⟩, rfl, rfl⟩

theorem reached_fewer (fewer : (edgesElsewhere sources edges).length < edges.length) :
    reached edges sources = met edges sources ++ reached (edgesElsewhere sources edges) (met edges sources) := by
  rw [reached, dif_pos fewer]
  rfl

theorem reached_whole (whole : ¬(edgesElsewhere sources edges).length < edges.length) :
    reached edges sources = [] := by
  rw [reached, dif_neg whole]

-- Following edges from a set of names: a statement holds of every walk outward if
-- it holds where no edge leaves the set and one more round keeps it.
theorem reached_rounds {motive : List Edge → List String → Prop}
    (whole : ∀ edges sources, ¬(edgesElsewhere sources edges).length < edges.length → motive edges sources)
    (round : ∀ edges sources, (edgesElsewhere sources edges).length < edges.length →
      motive (edgesElsewhere sources edges) (met edges sources) → motive edges sources)
    (edges : List Edge) (sources : List String) : motive edges sources := by
  by_cases fewer : (edgesElsewhere sources edges).length < edges.length
  · exact round edges sources fewer (reached_rounds whole round _ _)
  · exact whole edges sources fewer
termination_by edges.length

theorem none_leaves (whole : ¬(edgesElsewhere sources edges).length < edges.length) :
    ∀ edge ∈ edges, edge.producer ∉ sources := by
  have size : (edgesElsewhere sources edges).length = edges.length :=
    Nat.le_antisymm (List.length_filter_le _ _) (Nat.le_of_not_lt whole)
  intro edge held
  simpa using List.length_filter_eq_length_iff.mp size edge held

-- The edges out of the set are not needed once their ends are known: a walk that
-- comes back to the set could have started there.
theorem reachedFrom_round : ReachedFrom edges sources name ↔
    name ∈ met edges sources ∨ ReachedFrom (edgesElsewhere sources edges) (met edges sources) name := by
  constructor
  · rintro ⟨source, listed, path⟩
    induction path with
    | single step => exact .inl (mem_met.mpr ⟨source, listed, step⟩)
    | @tail between name _ step ih =>
        by_cases again : between ∈ sources
        · exact .inl (mem_met.mpr ⟨between, again, step⟩)
        · have kept := leads_elsewhere.mpr ⟨step, again⟩
          rcases ih with near | ⟨start, far, walked⟩
          · exact .inr ⟨between, near, .single kept⟩
          · exact .inr ⟨start, far, walked.tail kept⟩
  · rintro (near | ⟨start, far, walked⟩)
    · obtain ⟨source, listed, step⟩ := mem_met.mp near
      exact ⟨source, listed, .single step⟩
    · obtain ⟨source, listed, step⟩ := mem_met.mp far
      have whole := walked.lift id fun _ _ kept => (leads_elsewhere.mp kept).1
      exact ⟨source, listed, .head step whole⟩

theorem mem_reached (edges : List Edge) (sources : List String) (name : String) :
    name ∈ reached edges sources ↔ ReachedFrom edges sources name := by
  induction edges, sources using reached_rounds with
  | whole edges sources whole =>
      rw [reached_whole whole]
      simp only [List.not_mem_nil, false_iff]
      rintro ⟨source, listed, path⟩
      obtain ⟨_, edge, held, rfl, _⟩ := reaches_leaves path
      exact none_leaves whole edge held listed
  | round edges sources fewer ih =>
      rw [reached_fewer fewer, List.mem_append, ih]
      exact reachedFrom_round.symm

namespace Pipeline

variable {pipeline : Pipeline}

-- The jobs beyond a name, as they stand in the pipeline: all that bear a name
-- which a walk leads to, each of them once, and no others. A walk may pass
-- through names that no job has.
structure Beyond (pipeline : Pipeline) (name : String) (listed : List String) : Prop where
  reached : ∀ other, other ∈ listed ↔ other ∈ pipeline.names ∧ Reaches pipeline.edges name other
  ordered : listed.Sublist pipeline.names
  whole : ∀ other ∈ listed, listed.count other = pipeline.names.count other

theorem job_known : (∃ job, pipeline.job name = .ok job) ↔ name ∈ pipeline.names := by
  unfold Pipeline.job job? names
  cases found : pipeline.jobs.find? fun job => job.name == name with
  | none => simpa using List.find?_eq_none.mp found
  | some job =>
      have called : job.name = name := by simpa using List.find?_some found
      simpa using ⟨job, List.mem_of_find?_eq_some found, called⟩

theorem job_unknown (absent : name ∉ pipeline.names) : pipeline.job name = .error (.unknownJob name) := by
  unfold Pipeline.job
  cases found : pipeline.job? name with
  | none => rfl
  | some job => exact False.elim (absent (job_known.mp ⟨job, by simp [Pipeline.job, found]⟩))

theorem transitiveDependents_unknown (absent : name ∉ pipeline.names) :
    pipeline.transitiveDependents name = .error (.unknownJob name) := by
  unfold transitiveDependents
  rw [job_unknown absent]
  rfl

theorem transitiveDependents_known (present : name ∈ pipeline.names) : pipeline.transitiveDependents name =
    .ok (pipeline.names.filter (reached pipeline.edges [name]).contains) := by
  obtain ⟨job, found⟩ := job_known.mpr present
  unfold transitiveDependents
  rw [found]
  rfl

theorem filter_beyond (pipeline : Pipeline) (name : String) :
    pipeline.Beyond name (pipeline.names.filter (reached pipeline.edges [name]).contains) where
  reached other := by simp [mem_reached, ReachedFrom]
  ordered := List.filter_sublist
  whole other present := List.count_filter (List.mem_filter.mp present).2

end Pipeline
end BuildMatrix
