import BuildMatrix.Proofs.Generation.Outcome

namespace BuildMatrix

-- The words that the names of the catalogue's traits are made of, and what may
-- be read from them.
def nameWords : List String := ["-linux", "-darwin", "-windows", "-amd64", "-musl", "-aarch64"]

def wordOs? : String → Option Os
  | "-linux" => some .linux
  | "-darwin" => some .darwin
  | "-windows" => some .windows
  | _ => none

def wordArch? : String → Option String
  | "-amd64" => some "amd64"
  | "-aarch64" => some "aarch64"
  | _ => none

structure Spells (words : List String) (name : String) (os : Option Os) (arch : Option String) : Prop where
  known : ∀ word ∈ words, word ∈ nameWords
  name : name = String.join words
  os : os = firstSet wordOs? words
  arch : arch = firstSet wordArch? words

def Spelled (name : String) (os : Option Os) (arch : Option String) : Prop := ∃ words, Spells words name os arch

theorem firstSet_append {α β : Type} (read : α → Option β) (one other : List α) :
    firstSet read (one ++ other) = (firstSet read one).or (firstSet read other) := by
  unfold firstSet
  rw [List.filterMap_append, List.head?_append]

section
variable {name tail : String} {os next : Option Os} {arch other : Option String}

theorem spelled_nothing : Spelled "" none none := ⟨[], by simp, rfl, rfl, rfl⟩

theorem spelled_append (first : Spelled name os arch) (second : Spelled tail next other) :
    Spelled (name ++ tail) (os.or next) (arch.or other) := by
  obtain ⟨words, one⟩ := first
  obtain ⟨more, two⟩ := second
  refine ⟨words ++ more, ?_, ?_, ?_, ?_⟩
  · intro word present
    rcases List.mem_append.mp present with early | late
    · exact one.known word early
    · exact two.known word late
  · rw [one.name, two.name, String.join_append]
  · rw [one.os, two.os, firstSet_append]
  · rw [one.arch, two.arch, firstSet_append]

-- No word opens another one, so a name can be cut into its words.
theorem spelled_same (first : Spelled name os arch) (second : Spelled name next other) : os = next ∧ arch = other := by
  obtain ⟨words, one⟩ := first
  obtain ⟨more, two⟩ := second
  have free : PrefixFree nameWords := by decide
  have same := join_cut free (by decide) one.known two.known (one.name.symm.trans two.name)
  subst same
  exact ⟨one.os.trans two.os.symm, one.arch.trans two.arch.symm⟩

end

def Trait.Spelled (trait : Trait) : Prop := BuildMatrix.Spelled trait.name trait.os trait.arch
def JobTemplate.Spelled (template : JobTemplate) : Prop := BuildMatrix.Spelled template.name template.os template.arch

theorem traits_spelled {traits : List Trait} (each : ∀ trait ∈ traits, trait.Spelled) :
    Spelled (String.join (traits.map Trait.name)) (firstSet Trait.os traits) (firstSet Trait.arch traits) := by
  induction traits with
  | nil => exact spelled_nothing
  | cons trait rest ih =>
      obtain ⟨first, others⟩ := List.forall_mem_cons.mp each
      rw [List.map_cons, join_cons, firstSet_cons, firstSet_cons]
      exact spelled_append first (ih others)

theorem extend_spelled {template result : JobTemplate} {traits : List Trait} (spelled : template.Spelled)
    (each : ∀ trait ∈ traits, trait.Spelled) (extended : template.extend traits = .ok result) : result.Spelled := by
  have form := JobTemplate.extend_form extended
  unfold JobTemplate.Spelled
  rw [form.name, form.os, form.arch]
  exact spelled_append spelled (traits_spelled each)

theorem catalogue_spelled : ∀ trait ∈ Catalogue.traits, trait.Spelled := by
  have silent : ∀ {trait : Trait}, trait.name = "" → trait.os = none → trait.arch = none → trait.Spelled := by
    intro trait name os arch
    unfold Trait.Spelled
    rw [name, os, arch]
    exact spelled_nothing
  unfold Catalogue.traits
  simp only [List.forall_mem_cons, List.not_mem_nil, false_implies, implies_true, and_true]
  refine ⟨silent rfl rfl rfl, silent rfl rfl rfl, ?_, ?_, ?_, ?_, ?_, ?_, ?_, silent rfl rfl rfl,
    silent rfl rfl rfl, silent rfl rfl rfl, silent rfl rfl rfl⟩
  · exact ⟨["-linux"], by decide, rfl, rfl, rfl⟩
  · exact ⟨["-linux"], by decide, rfl, rfl, rfl⟩
  · exact ⟨["-darwin"], by decide, rfl, rfl, rfl⟩
  · exact ⟨["-windows"], by decide, rfl, rfl, rfl⟩
  · exact ⟨["-amd64"], by decide, rfl, rfl, rfl⟩
  · exact ⟨["-amd64", "-musl"], by decide, rfl, rfl, rfl⟩
  · exact ⟨["-aarch64"], by decide, rfl, rfl, rfl⟩

theorem getAll_spelled {names : List String} {traits : List Trait}
    (found : Registry.catalogue.getAll names = .ok traits) : ∀ trait ∈ traits, trait.Spelled := by
  intro trait present
  obtain ⟨name, _, held⟩ := related_right (mapM_ok.mp found) present
  exact catalogue_spelled _ (catalogue_listed held)

variable {builder : Builder} {machine : Machine} {template : JobTemplate} {kind : JobKind}
  {parameters : Parameters} {cell : Cell} {origin : Origin} {job : Job}

namespace Builder

theorem kindTraits_spelled {traits : List Trait} (standard : builder.registry = Registry.catalogue)
    (found : builder.kindTraits template parameters kind = .ok traits) : ∀ trait ∈ traits, trait.Spelled := by
  have required : (requireLabsjdk template).Spelled := spelled_nothing
  have cloned : (cloneGraal builder.settings template).Spelled := spelled_nothing
  unfold kindTraits at found
  rw [standard] at found
  cases kind with
  | build | muslBuild => exact getAll_spelled found
  | runOnly =>
      cases found
      exact List.forall_mem_singleton.mpr required
  | compilerTest | jsTest | libgraalBuild | libgraalTest =>
      cases found
      exact List.forall_mem_cons.mpr ⟨required, List.forall_mem_singleton.mpr cloned⟩

theorem origin_extends (made : builder.origin template kind parameters = .ok origin) : ∃ traits,
    builder.kindTraits template parameters kind = .ok traits ∧ template.extend traits = .ok origin.composed := by
  obtain ⟨label, _, made⟩ := bind_ok.mp made
  obtain ⟨traits, found, made⟩ := bind_ok.mp made
  obtain ⟨composed, extended, made⟩ := bind_ok.mp made
  cases made
  exact ⟨traits, found, extended⟩

theorem machineOf_ok (stated : machineOf kind template = .ok machine) :
    template.os = some machine.os ∧ template.arch = some machine.arch := by
  unfold machineOf at stated
  split at stated
  · cases stated
  · cases stated
  · rename_i os arch system architecture
    cases stated
    exact ⟨system, architecture⟩

theorem buildKind_machine (built : builder.buildKind machine template parameters kind = .ok job) :
    job.os = machine.os ∧ job.arch = machine.arch := by
  obtain ⟨_, _, _, _, _, rfl⟩ := buildKind_made built
  exact ⟨rfl, rfl⟩

end Builder

theorem cell_machine (made : cell.origin builder = .ok origin) (built : cell.job builder = .ok job) :
    origin.composed.os = some job.os ∧ origin.composed.arch = some job.arch := by
  obtain ⟨template, composed, built⟩ := bind_ok.mp built
  obtain ⟨also, same, made⟩ := bind_ok.mp made
  cases composed.symm.trans same
  obtain ⟨machine, stated, built⟩ := build_kind built
  obtain ⟨os, arch⟩ := Builder.machineOf_ok stated
  obtain ⟨system, architecture⟩ := Builder.buildKind_machine built
  obtain ⟨traits, _, extended⟩ := Builder.origin_extends made
  have form := JobTemplate.extend_form extended
  rw [form.os, form.arch, os, arch, system, architecture]
  exact ⟨rfl, rfl⟩

theorem origin_spelled (standard : builder.registry = Registry.catalogue) (made : cell.origin builder = .ok origin) :
    origin.composed.Spelled := by
  obtain ⟨template, composed, made⟩ := bind_ok.mp made
  obtain ⟨traits, found, extended⟩ := Builder.origin_extends made
  refine extend_spelled ?_ (Builder.kindTraits_spelled standard found) extended
  unfold Cell.template Combination.template at composed
  rw [standard] at composed
  obtain ⟨named, resolved, composed⟩ := bind_ok.mp composed
  have bare : JobTemplate.empty.Spelled := spelled_nothing
  exact extend_spelled bare (getAll_spelled resolved) composed

theorem job_spelled {cells : List Cell} {jobs : List Job} (standard : builder.registry = Registry.catalogue)
    (yields : Yields builder cells jobs) (present : job ∈ jobs) :
    ∃ origin : Origin, origin.Describes job ∧ Spelled origin.suffix (some job.os) (some job.arch) := by
  obtain ⟨cell, _, built⟩ := related_right yields present
  obtain ⟨origin, made, describes⟩ := cell_describes built
  obtain ⟨os, arch⟩ := cell_machine made built
  have spelled := origin_spelled standard made
  unfold JobTemplate.Spelled at spelled
  rw [os, arch] at spelled
  exact ⟨origin, describes, spelled⟩

namespace Pipeline

theorem job_found {jobs : List Job} {edges : List Edge} (distinct : DistinctNames jobs) (present : job ∈ jobs) :
    (⟨jobs, edges⟩ : Pipeline).job job.name = .ok job := by
  have found : jobs.find? (fun other => other.name == job.name) = some job := by
    cases looked : jobs.find? fun other => other.name == job.name with
    | none => simpa using List.find?_eq_none.mp looked job present
    | some other =>
        have same : other.name = job.name := by simpa using List.find?_some looked
        rw [same_job distinct (List.mem_of_find?_eq_some looked) present same]
  unfold Pipeline.job Pipeline.job?
  simp only [found]

-- Where the catalogue's traits are composed, artifacts stay among the machines
-- of one system and one architecture: their names tell both.
theorem generate_machines (registry : Option Registry) (matrices : Option (List Matrix)) (settings : Option Settings)
    (pipeline : Pipeline) (standard : Registry.orCatalogue registry = Registry.catalogue)
    (generated : generate registry matrices settings = .ok pipeline) :
    ∀ edge ∈ pipeline.edges, ∃ producer consumer,
      pipeline.job edge.producer = .ok producer ∧ pipeline.job edge.consumer = .ok consumer ∧
      producer.os = consumer.os ∧ producer.arch = consumer.arch := by
  intro edge present
  obtain ⟨groups, built, sound, rfl⟩ := generate_ok generated
  have yields := jobsByKind_ok.mp ⟨groups, built, rfl⟩
  obtain ⟨producer, consumer, ⟨there, held, artifact, made, needed⟩, called, named⟩ :=
    (leads_graph sound.producers).mp (leads_of_mem present)
  obtain ⟨source, tells, first⟩ := job_spelled standard yields there
  obtain ⟨origin, describes, second⟩ := job_spelled standard yields held
  rw [tells.published] at made
  rw [describes.required] at needed
  rw [(Origin.exchanged made needed).1] at first
  obtain ⟨os, arch⟩ := spelled_same first second
  exact ⟨producer, consumer, called ▸ job_found sound.names there, named ▸ job_found sound.names held,
    Option.some.inj os, Option.some.inj arch⟩

theorem trial_machines : Registry.orCatalogue none = Registry.catalogue ∧
    ∃ pipeline, generate none (some trial) none = .ok pipeline ∧
      (pipeline.edges.map fun edge => (edge.producer, edge.consumer)) = [
        ("build-jdk-darwin-aarch64", "test-compiler-darwin-aarch64"),
        ("build-jdk-linux-amd64", "build-libgraal-linux-amd64"),
        ("build-jdk-linux-amd64", "test-libgraal-linux-amd64"),
        ("build-libgraal-linux-amd64", "test-libgraal-linux-amd64")] ∧
      ∀ edge ∈ pipeline.edges, ∃ producer consumer,
        pipeline.job edge.producer = .ok producer ∧ pipeline.job edge.consumer = .ok consumer ∧
        producer.os = consumer.os ∧ producer.arch = consumer.arch := by
  obtain ⟨groups, built, generated⟩ := trial_generates
  refine ⟨rfl, _, generated, ?_, generate_machines none (some trial) none _ rfl generated⟩
  exact Except.ok.inj (congrArg (Except.map fun groups =>
    (graphOf (arrange groups)).edges.map fun edge : Edge => (edge.producer, edge.consumer)) built).symm

end Pipeline

end BuildMatrix
