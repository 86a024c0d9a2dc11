import BuildMatrix.Proofs.Generation.Outcome
import BuildMatrix.Proofs.Graph.Reachability

namespace BuildMatrix

-- Settings are written into steps, and nowhere else. Two runs under different
-- settings go side by side: what they come to differs in steps alone, of which
-- there are equally many.

structure JobTemplate.SameButRun (one other : JobTemplate) : Prop where
  fields : other = { one with run := other.run }
  size : other.run.length = one.run.length

structure Job.SameButRun (one other : Job) : Prop where
  fields : other = { one with run := other.run }
  size : other.run.length = one.run.length
  given : one.kind = JobKind.runOnly.word → other = one

variable {registry : Registry}

namespace Steps

theorem jdk_size (one other : Settings) (template : JobTemplate) (musl : Bool) :
    (jdk other template musl).length = (jdk one template musl).length := by
  simp only [jdk, checkoutBuilder, List.length_append, List.length_cons]

theorem cloneGraal_size (one other : Settings) (template : JobTemplate) :
    (cloneGraal other template).length = (cloneGraal one template).length := by
  simp only [cloneGraal, List.length_append, List.length_cons]

end Steps

theorem merge_inStep (template : JobTemplate) (trait : Trait) {run : List Command}
    (size : run.length = trait.run.length) :
    InStep JobTemplate.SameButRun (template.merge trait) (template.merge { trait with run := run }) := by
  unfold JobTemplate.merge
  refine inStep_after fun system => ?_
  refine inStep_after fun architecture => ?_
  refine .succeed ⟨rfl, ?_⟩
  simp only [List.length_append, size]

theorem graalTemplate_inStep (one other : Settings) (template : JobTemplate) :
    InStep JobTemplate.SameButRun (Builder.graalTemplate one template) (Builder.graalTemplate other template) := by
  unfold Builder.graalTemplate JobTemplate.extend
  simp only [List.foldlM_cons, List.foldlM_nil]
  refine inStep_after fun required => ?_
  refine inStep_bind (merge_inStep required _ (Steps.cloneGraal_size one other template)) ?_
  intro composed second same
  exact .succeed same

theorem buildKind_inStep (one other : Settings) (machine : Machine) (template : JobTemplate)
    (parameters : Parameters) (kind : JobKind) :
    InStep Job.SameButRun ((⟨one, registry⟩ : Builder).buildKind machine template parameters kind)
      ((⟨other, registry⟩ : Builder).buildKind machine template parameters kind) := by
  cases kind with
  | build | muslBuild =>
      refine inStep_after fun mixins => ?_
      refine inStep_after fun composed => ?_
      refine .succeed ⟨rfl, ?_, fun named => absurd named (by simp [Builder.job, JobKind.word])⟩
      simp only [Builder.job, List.length_map, List.length_append, Steps.jdk_size one other]
  | compilerTest | jsTest | libgraalBuild | libgraalTest =>
      refine inStep_bind (graalTemplate_inStep one other template) ?_
      rintro composed second ⟨fields, size⟩
      rw [fields]
      refine .succeed ⟨rfl, ?_, fun named => absurd named (by simp [Builder.job, JobKind.word])⟩
      simp only [Builder.job, List.length_map, List.length_append, size, Steps.libgraalBuild, Steps.libgraalTest,
        List.length_cons]
  | runOnly =>
      refine inStep_after fun label => ?_
      refine inStep_after fun composed => ?_
      refine inStep_after fun steps => ?_
      exact .succeed ⟨rfl, rfl, fun _ => rfl⟩

theorem build_inStep (one other : Settings) (template : JobTemplate) (kind : JobKind) (parameters : Parameters) :
    InStep Job.SameButRun ((⟨one, registry⟩ : Builder).build template kind parameters)
      ((⟨other, registry⟩ : Builder).build template kind parameters) := by
  by_cases accepted : Builder.unaccepted kind parameters = []
  · rw [build_accepted accepted, build_accepted accepted]
    refine inStep_after fun machine => ?_
    exact buildKind_inStep one other machine template parameters kind
  · rw [build_unaccepted accepted, build_unaccepted accepted]
    refine inStep_after fun told => ?_
    exact .fail _

theorem jobsInTurn_inStep (one other : Settings) (matrices : List Matrix) :
    InStep (List.Forall₂ (SameGroup Job.SameButRun)) (jobsInTurn ⟨one, registry⟩ matrices)
      (jobsInTurn ⟨other, registry⟩ matrices) := by
  refine inTurn_inStep matrices fun matrix _ => ?_
  refine inStep_after fun templates => ?_
  exact inStep_mapM (fun template => build_inStep one other template matrix.kind matrix.parameters) templates

namespace Pipeline

variable {jobs others : List Job} {pipeline second : Pipeline}

theorem transitiveDependents_same (names : second.names = pipeline.names) (edges : second.edges = pipeline.edges)
    (name : String) : second.transitiveDependents name = pipeline.transitiveDependents name := by
  by_cases present : name ∈ pipeline.names
  · rw [transitiveDependents_known present, transitiveDependents_known (names ▸ present), names, edges]
  · rw [transitiveDependents_unknown present, transitiveDependents_unknown (names ▸ present)]

structure SameButRun (pipeline second : Pipeline) : Prop where
  jobs : List.Forall₂ Job.SameButRun pipeline.jobs second.jobs
  edges : second.edges = pipeline.edges
  stages : ∃ levels, pipeline.levels = .ok levels ∧ second.levels = .ok levels
  dependents : ∀ name, second.transitiveDependents name = pipeline.transitiveDependents name

theorem resolve_inStep (same : List.Forall₂ Job.SameButRun jobs others) :
    InStep SameButRun (resolve jobs) (resolve others) := by
  have names : others.map Job.name = jobs.map Job.name :=
    related_map (fun job other belong => by rw [belong.fields]) same
  have publications : publicationsOf others = publicationsOf jobs :=
    related_flatMap (fun job other belong => by rw [belong.fields]; rfl) same
  have requirements : requirementsOf others = requirementsOf jobs :=
    related_flatMap (fun job other belong => by rw [belong.fields]; rfl) same
  refine (resolve_declared names publications requirements).imp ?_
  rintro pipeline second ⟨rfl, rfl, edges, stages⟩
  exact ⟨same, edges, stages, transitiveDependents_same names edges⟩

-- Settings reach the steps of jobs and nothing beyond: not the names, not the
-- artifacts, not what is refused and how.
theorem generate_independent (registry : Option Registry) (matrices : Option (List Matrix))
    (one other : Option Settings) :
    InStep SameButRun (generate registry matrices one) (generate registry matrices other) := by
  rw [generate_turns, generate_turns]
  refine inStep_bind (jobsInTurn_inStep (one.getD {}) (other.getD {}) _) fun groups seconds same => ?_
  exact resolve_inStep (arrange_same same)

end Pipeline
end BuildMatrix
