import BuildMatrix.Proofs.Resolution.Outcome

namespace BuildMatrix

variable {edges : List Edge} {name : String}

def Trapped (edges : List Edge) (name : String) : Prop :=
  ∃ place, Reaches edges place place ∧ (place = name ∨ Reaches edges place name)

-- Going back from a trapped name never ends, and from no other name.
theorem trapped_chains : Trapped edges name ↔ ∀ length, ChainTo edges length name := by
  constructor
  · rintro ⟨place, cycle, further⟩ length
    obtain ⟨longer, enough, chain⟩ := cycle_chains cycle length
    rcases further with rfl | path
    · exact chain_down chain enough
    · obtain ⟨longest, more, reached⟩ := chain_extends path chain
      exact chain_down reached (Nat.le_of_lt (Nat.lt_of_le_of_lt enough more))
  · intro endless
    exact chain_cycle (endless (edges.length + 1)) (Nat.lt_succ_self _)

namespace Pipeline

variable {pipeline : Pipeline} {jobs : List Job}

-- The jobs that no order of running could ever come to, each told once where it
-- first stands in the pipeline, and no others.
structure Stalled (pipeline : Pipeline) (told : List String) : Prop where
  trapped : ∀ name, name ∈ told ↔ name ∈ pipeline.names ∧ Trapped pipeline.edges name
  ordered : told.Pairwise fun one other => pipeline.names.idxOf one < pipeline.names.idxOf other
  inhabited : told ≠ []

theorem peel_trapped (known : pipeline.Known) (name : String) :
    name ∈ (peel pipeline.edges (lastSeen pipeline.names)).stuck ↔
      name ∈ pipeline.names ∧ Trapped pipeline.edges name := by
  rw [peel_stuck (known_comeFrom known), mem_lastSeen, trapped_chains]

theorem cycle_trapped (cyclic : ¬Acyclic pipeline.edges) (known : pipeline.Known) :
    ∃ name ∈ pipeline.names, Trapped pipeline.edges name := by
  obtain ⟨place, cycle⟩ := not_forall_not.mp cyclic
  obtain ⟨_, edge, held, rfl, _⟩ := reaches_leaves cycle
  exact ⟨edge.producer, (known_ends known held).1, edge.producer, cycle, .inl rfl⟩

theorem levels_stalled (known : pipeline.Known) (cyclic : ¬Acyclic pipeline.edges) :
    ∃ told, pipeline.levels = .error (.cyclic told) ∧ pipeline.Stalled told := by
  have members : ∀ name, name ∈ (firstSeen pipeline.names).filter
      (peel pipeline.edges (lastSeen pipeline.names)).stuck.contains ↔
        name ∈ pipeline.names ∧ Trapped pipeline.edges name := by
    intro name
    rw [List.mem_filter, List.contains_iff_mem, peel_trapped known, firstSeen, List.mem_eraseDups]
    exact and_iff_right_of_imp And.left
  cases computed : pipeline.levels with
  | ok levels => exact False.elim (cyclic ((levels_ok known).mp computed).1)
  | error failure =>
      obtain ⟨_, rfl⟩ := levels_error known computed
      refine ⟨_, rfl, members, (eraseDups_ordered _).sublist List.filter_sublist, ?_⟩
      obtain ⟨name, present, trapped⟩ := cycle_trapped cyclic known
      exact List.ne_nil_of_mem ((members name).mpr ⟨present, trapped⟩)

theorem resolve_stalled (distinct : DistinctNames jobs) (single : SingleProducers jobs)
    (published : AllPublished jobs) (cyclic : ¬Acyclic (graphOf jobs).edges) :
    ∃ told, resolve jobs = .error (.cyclic told) ∧ (graphOf jobs).Stalled told := by
  obtain ⟨told, computed, stalled⟩ := levels_stalled (graph_known single) cyclic
  refine ⟨told, ?_, stalled⟩
  rw [resolve_graph distinct single published, computed]
  rfl

-- Where a cycle is found, be it in a pipeline as it is or in one that is being
-- made from artifacts, the report tells the jobs that the cycle keeps from
-- running, whether they are part of it or only wait for it.
theorem cycle_reported :
    (∀ pipeline : Pipeline, pipeline.Known → ¬Acyclic pipeline.edges →
      ∃ told, pipeline.levels = .error (.cyclic told) ∧ pipeline.Stalled told) ∧
    (∀ jobs : List Job, DistinctNames jobs → SingleProducers jobs → AllPublished jobs →
      ¬Acyclic (graphOf jobs).edges →
      ∃ told, resolve jobs = .error (.cyclic told) ∧ (graphOf jobs).Stalled told) ∧
    ∀ told, (Failure.cyclic told).report.kind = .cyclicDependency ∧
      (Failure.cyclic told).report.details = [("stuck", ", ".intercalate told)] := by
  refine ⟨fun _ => levels_stalled, fun _ => resolve_stalled, ?_⟩
  intro told
  exact ⟨rfl, rfl⟩

def coil : Pipeline where
  jobs := [.declaring "after" [] [], .declaring "two" [] [], .declaring "aside" [] [], .declaring "one" [] [],
    .declaring "before" [] [], .declaring "after" [] []]
  edges := [⟨"before", "one", []⟩, ⟨"one", "two", []⟩, ⟨"two", "one", []⟩, ⟨"two", "after", []⟩]

def drafts : List Job := [
  .declaring "report" [] ["draft", "paper"],
  .declaring "paper" ["paper"] [],
  .declaring "draft" ["draft"] ["draft"]]

theorem coil_reported : coil.Known ∧ ¬Acyclic coil.edges ∧
    coil.levels = .error (.cyclic ["after", "two", "one"]) ∧ coil.Stalled ["after", "two", "one"] ∧
    DistinctNames drafts ∧ SingleProducers drafts ∧ AllPublished drafts ∧ ¬Acyclic (graphOf drafts).edges ∧
    ∃ told, resolve drafts = .error (.cyclic told) ∧ (graphOf drafts).Stalled told := by
  have known : coil.Known := by
    unfold Known
    decide
  have forth : Leads coil.edges "one" "two" := ⟨⟨"one", "two", []⟩, by decide, rfl, rfl⟩
  have back : Leads coil.edges "two" "one" := ⟨⟨"two", "one", []⟩, by decide, rfl, rfl⟩
  have cyclic : ¬Acyclic coil.edges := fun acyclic => acyclic "one" ((Relation.TransGen.single forth).tail back)
  have computed : coil.levels = .error (.cyclic ["after", "two", "one"]) := by cbv
  obtain ⟨told, failed, stalled⟩ := cycle_reported.1 coil known cyclic
  rw [computed] at failed
  cases failed
  have distinct : DistinctNames drafts := by unfold DistinctNames; decide
  have single : SingleProducers drafts := by unfold SingleProducers; decide
  have published : AllPublished drafts := by unfold AllPublished; decide
  have itself : Leads (graphOf drafts).edges "draft" "draft" :=
    ⟨⟨"draft", "draft", ["draft"]⟩, by decide, rfl, rfl⟩
  have endless : ¬Acyclic (graphOf drafts).edges := fun acyclic => acyclic "draft" (.single itself)
  exact ⟨known, cyclic, computed, stalled, distinct, single, published, endless,
    cycle_reported.2.1 drafts distinct single published endless⟩

end Pipeline
end BuildMatrix
