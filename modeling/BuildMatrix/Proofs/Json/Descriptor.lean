import BuildMatrix.Pipeline.Descriptor
import BuildMatrix.Pipeline.Basic
import BuildMatrix.Proofs.Json.Reading
import BuildMatrix.Proofs.Json.Writing
import BuildMatrix.Proofs.Outcomes

namespace BuildMatrix

open Value (Plain)

theorem arguments_walked : (arguments : List Argument) →
    Value.walkedItems (Command.argumentValues arguments) = .ok (Command.argumentValues arguments)
  | [] => rfl
  | .text string :: rest => by
      rw [Command.argumentValues, Command.argumentValue, Value.walkedItems, arguments_walked rest]
      rfl
  | .output inner :: rest => by
      rw [Command.argumentValues, Command.argumentValue, Value.walkedItems, Value.walked, arguments_walked inner,
        arguments_walked rest]
      · rfl
      · intro string equal
        cases equal

def AreCommands (steps : List Value) : Prop := ∀ step ∈ steps, ∃ command : Command, step = command.toValue

variable {steps : List Value}

theorem AreCommands.walked (commands : AreCommands steps) : steps.mapM Value.walked = .ok steps := by
  rw [mapM_ok, List.forall₂_same]
  intro step present
  obtain ⟨command, rfl⟩ := commands step present
  rw [Command.toValue, Value.walked, arguments_walked]
  rfl

structure Job.Writable (job : Job) : Prop where
  run : AreCommands job.run
  setup : AreCommands job.setup
  timelimit : job.timelimit.Plain

theorem records_plain {α : Type} {write : α → Value} (items : List α) (each : ∀ item, Plain (write item)) :
    Plain (.list (items.map write)) := by
  apply Plain.list
  intro value present
  obtain ⟨item, _, rfl⟩ := List.mem_map.mp present
  exact each item

theorem texts_plain (items : List String) : Plain (.texts items) := records_plain items .text

-- Walking through a value leaves texts and lists, and nothing else of it.
theorem walked_plain : (∀ given written, Value.walked given = .ok written → Plain written) ∧
    ∀ items written, Value.walkedItems items = .ok written → ∀ value ∈ written, Plain value := by
  refine Value.walked.mutual_induct _ _ ?text ?list ?table ?other ?nil ?string ?item
  case text =>
    intro string written equal
    cases equal
    exact texts_plain _
  case list =>
    intro items ih written equal
    rw [Value.walked] at equal
    obtain ⟨inner, walked, equal⟩ := bind_ok.mp equal
    cases equal
    exact .list (ih inner walked)
  case table =>
    intro rows written equal
    cases equal
    exact texts_plain _
  case other =>
    intro value notText notList notTable written equal
    rw [Value.walked] at equal
    · cases equal
    · exact notText
    · exact notList
    · exact notTable
  case nil =>
    intro written equal
    cases equal
    simp
  case string =>
    intro string rest ih written equal
    rw [Value.walkedItems] at equal
    obtain ⟨others, walked, equal⟩ := bind_ok.mp equal
    cases equal
    exact List.forall_mem_cons.mpr ⟨.text string, ih others walked⟩
  case item =>
    intro item rest notText first rest_ih written equal
    rw [Value.walkedItems] at equal
    · obtain ⟨one, inner, equal⟩ := bind_ok.mp equal
      obtain ⟨others, walked, equal⟩ := bind_ok.mp equal
      cases equal
      exact List.forall_mem_cons.mpr ⟨first one inner, rest_ih others walked⟩
    · exact notText

theorem steps_plain {steps written : List Value} (walked : steps.mapM Value.walked = .ok written) :
    Plain (.list written) := by
  apply Plain.list
  intro value present
  obtain ⟨step, _, equal⟩ := related_right (mapM_ok.mp walked) present
  exact walked_plain.1 step value equal

theorem Mapping.record_plain {α : Type} {write : α → Value} (mapping : Mapping α) (each : ∀ item, Plain (write item)) :
    Plain (mapping.record write) := by
  apply Plain.table
  · rw [List.map_map]
    exact mapping.distinct
  · intro row present
    obtain ⟨held, _, rfl⟩ := List.mem_map.mp present
    exact each held.2

theorem optionalRow_within {rows : List (String × Value)} {keys : List String}
    (within : (rows.map Prod.fst).Sublist keys) (key : String) (value : Option Value) :
    ((rows ++ optionalRow key value).map Prod.fst).Sublist (keys ++ [key]) := by
  rw [List.map_append]
  apply within.append
  cases value with
  | none => exact List.nil_sublist [key]
  | some given => exact List.Sublist.refl [key]

theorem optionalRow_plain {key : String} {value : Option Value} (each : ∀ given, value = some given → Plain given) :
    ∀ row ∈ optionalRow key value, Plain row.2 := by
  cases value with
  | none => simp [optionalRow]
  | some given =>
      intro row present
      rw [List.mem_singleton.mp present]
      exact each given rfl

theorem optionalRecord_plain {α : Type} {key : String} {given : Option α} {write : α → Value}
    (each : ∀ item, Plain (write item)) : ∀ row ∈ optionalRow key (given.map write), Plain row.2 := by
  apply optionalRow_plain
  intro value equal
  obtain ⟨item, _, rfl⟩ := Option.map_eq_some_iff.mp equal
  exact each item

theorem Download.record_plain (download : Download) : Plain download.record := by
  apply Plain.table (by simp)
  simp only [List.forall_mem_cons]
  exact ⟨.text _, .text _, .bool _, by simp⟩

theorem Docker.record_plain (docker : Docker) : Plain docker.record := by
  apply Plain.table (by simp)
  simp only [List.forall_mem_cons]
  exact ⟨.text _, .bool _, by simp⟩

theorem PublishedArtifact.record_plain (artifact : PublishedArtifact) : Plain artifact.record := by
  apply Plain.table (by simp)
  simp only [List.forall_mem_cons]
  exact ⟨.text _, .text _, texts_plain _, by simp⟩

theorem RequiredArtifact.record_plain (artifact : RequiredArtifact) : Plain artifact.record := by
  apply Plain.table
  · have distinct : (["name", "dir"] ++ ["autoExtract"]).Nodup := by decide
    exact distinct.sublist (optionalRow_within (List.Sublist.refl _) _ _)
  · simp only [List.forall_mem_append, List.forall_mem_cons]
    exact ⟨⟨.text _, .text _, by simp⟩, optionalRecord_plain .bool⟩

theorem Edge.record_plain (edge : Edge) : Plain edge.record := by
  apply Plain.table (by simp)
  simp only [List.forall_mem_cons]
  exact ⟨.text _, .text _, texts_plain _, by simp⟩

namespace Job

theorem record_rows {job : Job} {record : Value} (written : job.record = .ok record) :
    ∃ rows, record = .table rows ∧ (rows.map Prod.fst).Nodup ∧ ∀ row ∈ rows, row.2 = job.timelimit ∨ Plain row.2 := by
  obtain ⟨run, ran, written⟩ := bind_ok.mp written
  obtain ⟨setup, prepared, written⟩ := bind_ok.mp written
  cases written
  refine ⟨_, rfl, ?_, ?_⟩
  · have distinct : (["name", "timelimit", "logs", "targets", "run", "publishArtifacts", "requireArtifacts",
        "environment", "downloads", "packages", "capabilities"] ++ ["diskspace_required"] ++ ["setup"] ++ ["docker"]
        ++ ["python_version"]).Nodup := by decide
    exact distinct.sublist (optionalRow_within (optionalRow_within (optionalRow_within
      (optionalRow_within (List.Sublist.refl _) _ _) _ _) _ _) _ _)
  · have steps : ∀ given, (if setup.isEmpty then none else some (Value.list setup)) = some given → Plain given := by
      intro given present
      split at present
      · cases present
      · cases present
        exact steps_plain prepared
    have optional : ∀ {rows : List (String × Value)}, (∀ row ∈ rows, Plain row.2) →
        ∀ row ∈ rows, row.2 = job.timelimit ∨ Plain row.2 := fun plain row held => .inr (plain row held)
    simp only [List.forall_mem_append, List.forall_mem_cons]
    exact ⟨⟨⟨⟨⟨.inr (.text _), .inl trivial, .inr (texts_plain _), .inr (texts_plain _), .inr (steps_plain ran),
      .inr (records_plain _ PublishedArtifact.record_plain), .inr (records_plain _ RequiredArtifact.record_plain),
      .inr (job.environment.record_plain .text), .inr (job.downloads.record_plain Download.record_plain),
      .inr (job.packages.record_plain .text), .inr (texts_plain _), by simp⟩, optional (optionalRecord_plain .text)⟩,
      optional (optionalRow_plain steps)⟩, optional (optionalRecord_plain Docker.record_plain)⟩,
      optional (optionalRecord_plain .text)⟩

theorem record_plain {job : Job} (writable : job.Writable) : ∃ record, job.record = .ok record ∧ Plain record := by
  have written : ∃ record, job.record = .ok record := by
    rw [record, writable.run.walked, writable.setup.walked]
    exact ⟨_, rfl⟩
  obtain ⟨record, written⟩ := written
  obtain ⟨rows, rfl, distinct, each⟩ := record_rows written
  refine ⟨_, written, .table distinct fun row present => ?_⟩
  rcases each row present with limit | plain
  · rw [limit]
    exact writable.timelimit
  · exact plain

end Job

namespace Pipeline

theorem record_plain {pipeline : Pipeline} (writable : ∀ job ∈ pipeline.jobs, job.Writable) :
    ∃ record, pipeline.record = .ok record ∧ Plain record := by
  obtain ⟨builds, ran⟩ := mapM_succeeds fun job present => by
    obtain ⟨record, written, _⟩ := Job.record_plain (writable job present)
    exact ⟨record, written⟩
  have plain : Plain (.list builds) := by
    apply Plain.list
    intro build present
    obtain ⟨job, held, written⟩ := related_right (mapM_ok.mp ran) present
    obtain ⟨record, again, plain⟩ := Job.record_plain (writable job held)
    rw [again] at written
    cases written
    exact plain
  refine ⟨_, by rw [record, ran]; rfl, ?_⟩
  apply Plain.table (by simp)
  simp only [List.forall_mem_cons]
  exact ⟨plain, records_plain _ Edge.record_plain, by simp⟩

-- The descriptor of a pipeline is one line end behind a document, and the one value
-- that the document stands for is the record of the pipeline.
theorem descriptor_read (pipeline : Pipeline) (writable : ∀ job ∈ pipeline.jobs, job.Writable)
    (layout : Json.Layout) : ∃ record text value, pipeline.record = .ok record ∧
      pipeline.descriptor layout = .ok (text ++ "\n") ∧ Json.Document text value ∧ Json.read? text = some value ∧
      (∀ other, Json.Document text other → other = value) ∧ value.Same record := by
  obtain ⟨record, written, plain⟩ := record_plain writable
  obtain ⟨text, equal, document⟩ := Json.document_spelled plain layout
  refine ⟨record, text, record.sortKeys, written, ?_, document, Json.read?_document document, ?_,
    Value.sortKeys_same plain⟩
  · rw [descriptor, written, ← equal]
    rfl
  · intro other again
    exact Json.document_unique again document

def motley : Pipeline where
  jobs := [{
    name := "say \"hi\" \\ now"
    kind := "build"
    os := .linux
    arch := "amd64"
    timelimit := .table [("wall", .int (-90)), ("soft", .list []), ("", .table [])]
    run := [Command.toValue [.text "sh\n-c", .output [.text "\x01é", .output []]], Command.toValue []]
    environment := .ofList [("Ω", "\t")]
    diskspaceRequired := some "" }]
  edges := [⟨"a", "b", ["€"]⟩]

theorem motley_read : (∀ job ∈ motley.jobs, job.Writable) ∧
    ∃ record text value, motley.record = .ok record ∧
      motley.descriptor (.indented 2) = .ok (text ++ "\n") ∧ Json.Document text value ∧ Json.read? text = some value ∧
      (∀ other, Json.Document text other → other = value) ∧ value.Same record := by
  have limit : Plain (.table [("wall", .int (-90)), ("soft", .list []), ("", .table [])]) := by
    apply Plain.table (by decide)
    simp only [List.forall_mem_cons]
    exact ⟨.int _, .list (by simp), .table (by simp) (by simp), by simp⟩
  have writable : ∀ job ∈ motley.jobs, job.Writable := by
    intro job present
    rw [List.mem_singleton.mp present]
    refine ⟨?_, ?_, limit⟩
    · intro step held
      rcases List.mem_cons.mp held with equal | held
      · exact ⟨_, equal⟩
      · exact ⟨[], List.mem_singleton.mp held⟩
    · intro step held
      cases held
  exact ⟨writable, descriptor_read motley writable (.indented 2)⟩

end Pipeline
end BuildMatrix
