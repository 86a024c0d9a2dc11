import BuildMatrix.Proofs.Json.Canonical
import BuildMatrix.Proofs.Json.Descriptor
import BuildMatrix.Proofs.Mapping
import BuildMatrix.Proofs.Resolution.Outcome

namespace BuildMatrix

open Value (Keyed)

-- No table in the record of a pipeline has a key twice, unless one in a time limit does.

theorem Job.record_keyed {job : Job} (limit : job.timelimit.Keyed) {record : Value} (written : job.record = .ok record) :
    record.Keyed := by
  obtain ⟨rows, rfl, distinct, each⟩ := record_rows written
  refine .table distinct fun row present => ?_
  cases each row present with
  | inl held =>
      rw [held]
      exact limit
  | inr plain => exact Value.plain_keyed plain

theorem Pipeline.record_keyed {pipeline : Pipeline} (limits : ∀ job ∈ pipeline.jobs, job.timelimit.Keyed)
    {record : Value} (written : pipeline.record = .ok record) : record.Keyed := by
  obtain ⟨builds, ran, written⟩ := bind_ok.mp written
  cases written
  have keyed : Keyed (.list builds) := by
    refine .list fun build present => ?_
    obtain ⟨job, held, recorded⟩ := related_right (mapM_ok.mp ran) present
    exact Job.record_keyed (limits job held) recorded
  apply Value.Throughout.table
  · simp
  · simp only [List.forall_mem_cons]
    exact ⟨keyed, Value.plain_keyed (records_plain _ Edge.record_plain), by simp⟩

def Value.SortsAs (one other : Value) : Prop := other.sortKeys = one.sortKeys

theorem Mapping.record_sorts {α : Type} {one other : Mapping α} (same : one.SameEntries other) (write : α → Value) :
    (one.record write).SortsAs (other.record write) := by
  have sorted : ∀ mapping : Mapping α, (mapping.record write).sortKeys =
      .table ((mapping.rows.map fun row => (row.1, (write row.2).sortKeys)).mergeSort
        fun a b => decide (a.1 ≤ b.1)) := by
    intro mapping
    rw [record, Value.sortKeys_table, List.map_map]
    rfl
  have keys : ∀ mapping : Mapping α,
      (mapping.rows.map fun row => (row.1, (write row.2).sortKeys)).map Prod.fst = mapping.keys := by
    intro mapping
    rw [List.map_map]
    rfl
  unfold Value.SortsAs
  rw [sorted, sorted]
  congr 1
  apply Value.rows_sorted_eq
  · rw [keys, keys]
    exact (sameEntries_keys same).symm
  · intro key first second here there
    obtain ⟨row, held, equal⟩ := List.mem_map.mp here
    obtain ⟨kept, present, again⟩ := List.mem_map.mp there
    cases equal
    obtain ⟨named, rfl⟩ := Prod.mk.inj again
    have found : some row.2 = some kept.2 := by
      rw [← get?_row held, ← get?_row present, named, same]
    rw [Option.some.inj found]

structure Job.SameEntries (one other : Job) : Prop where
  fields : other = { one with
    environment := other.environment
    downloads := other.downloads
    packages := other.packages }
  environment : one.environment.SameEntries other.environment
  downloads : one.downloads.SameEntries other.downloads
  packages : one.packages.SameEntries other.packages

theorem Job.record_sorts {one other : Job} (same : one.SameEntries other) :
    InStep Value.SortsAs one.record other.record := by
  obtain ⟨fields, environment, downloads, packages⟩ := same
  rw [fields]
  refine inStep_after fun run => inStep_after fun setup => .succeed ?_
  have sorted := And.intro (Mapping.record_sorts environment .text)
    (And.intro (Mapping.record_sorts downloads Download.record) (Mapping.record_sorts packages .text))
  unfold Value.SortsAs at sorted ⊢
  rw [Value.sortKeys_table, Value.sortKeys_table]
  simp only [List.map_append, List.map_cons, sorted]

namespace Pipeline

variable {jobs others : List Job} {pipeline second : Pipeline}

def WrittenAs (pipeline second : Pipeline) : Prop :=
  ∀ layout, second.descriptor layout = pipeline.descriptor layout

theorem record_sorts (same : List.Forall₂ Job.SameEntries pipeline.jobs second.jobs)
    (edges : second.edges = pipeline.edges) : InStep Value.SortsAs pipeline.record second.record := by
  refine inStep_bind (inStep_each (fun _ _ => Job.record_sorts) same) fun builds partners sorts => .succeed ?_
  have sorted : partners.map Value.sortKeys = builds.map Value.sortKeys :=
    related_map (fun _ _ belong => belong) sorts
  unfold Value.SortsAs
  rw [Value.sortKeys_table, Value.sortKeys_table, edges]
  simp only [List.map_cons, Value.sortKeys, Value.sortKeysItems_map, sorted]

theorem descriptor_written (same : List.Forall₂ Job.SameEntries pipeline.jobs second.jobs)
    (edges : second.edges = pipeline.edges) : pipeline.WrittenAs second := by
  intro layout
  refine (inStep_equal (inStep_bind (record_sorts same edges) fun one other sorts => .succeed ?_)).symm
  rw [Json.document, Json.document, sorts]

theorem resolve_entries (same : List.Forall₂ Job.SameEntries jobs others) :
    InStep WrittenAs (resolve jobs) (resolve others) := by
  have names : others.map Job.name = jobs.map Job.name :=
    related_map (fun job other belong => by rw [belong.fields]) same
  have publications : publicationsOf others = publicationsOf jobs :=
    related_flatMap (fun job other belong => by rw [belong.fields]; rfl) same
  have requirements : requirementsOf others = requirementsOf jobs :=
    related_flatMap (fun job other belong => by rw [belong.fields]; rfl) same
  refine (resolve_declared names publications requirements).imp fun pipeline second shape => ?_
  refine descriptor_written ?_ shape.edges
  rw [shape.jobs, shape.others]
  exact same

end Pipeline
end BuildMatrix
