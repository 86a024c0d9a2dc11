import BuildMatrix.Proofs.Composition.ClosedForm
import BuildMatrix.Proofs.Generation.Cells
import BuildMatrix.Proofs.Registry
import BuildMatrix.Proofs.Resolution.Declarations

namespace BuildMatrix

-- What a job was built from: its kind, the variant of the JDK, the label of a
-- job that only runs commands, and the template with the kind's own traits on it.
structure Origin where
  kind : JobKind
  musl : Bool
  label : String
  composed : JobTemplate

namespace Builder

def kindMusl (parameters : Parameters) : JobKind → Bool
  | .build => muslFlag parameters
  | .muslBuild => true
  | _ => false

def kindLabel (template : JobTemplate) (parameters : Parameters) : JobKind → Except Failure String
  | .runOnly => labelOf template parameters
  | _ => .ok ""

def kindTraits (builder : Builder) (template : JobTemplate) (parameters : Parameters) :
    JobKind → Except Failure (List Trait)
  | .build => builder.registry.getAll (jdkMixins (muslFlag parameters))
  | .muslBuild => builder.registry.getAll (jdkMixins true)
  | .runOnly => .ok [requireLabsjdk template]
  | _ => .ok [requireLabsjdk template, cloneGraal builder.settings template]

def origin (builder : Builder) (template : JobTemplate) (kind : JobKind) (parameters : Parameters) :
    Except Failure Origin := do
  let label ← kindLabel template parameters kind
  let traits ← builder.kindTraits template parameters kind
  let composed ← template.extend traits
  return ⟨kind, kindMusl parameters kind, label, composed⟩

end Builder

def Cell.origin (builder : Builder) (cell : Cell) : Except Failure Origin := do
  let template ← cell.template builder
  builder.origin template cell.kind cell.parameters

def JobKind.stem : JobKind → String
  | .build | .muslBuild => "build-jdk"
  | .compilerTest => "test-compiler"
  | .jsTest => "test-js"
  | .libgraalBuild => "build-libgraal"
  | .libgraalTest => "test-libgraal"
  | .runOnly => "run-"

def JobKind.needs : JobKind → List String
  | .build | .muslBuild => []
  | .libgraalTest => ["labsjdk", "graal-commit", "libgraal"]
  | _ => ["labsjdk"]

namespace Origin

def suffix (origin : Origin) : String := origin.composed.name

def tail (origin : Origin) : String :=
  match origin.kind with
  | .runOnly => origin.label ++ origin.suffix
  | _ => origin.suffix

def offers (origin : Origin) : List String :=
  match origin.kind, origin.musl with
  | .build, false => ["labsjdk"]
  | .libgraalBuild, _ => ["graal-commit", "libgraal"]
  | _, _ => []

def jobName (origin : Origin) : String := origin.kind.stem ++ origin.tail
def published (origin : Origin) : List String := origin.offers.map (· ++ origin.suffix)
def required (origin : Origin) : List String := origin.kind.needs.map (· ++ origin.suffix)

-- All that the resolution of dependencies ever looks at in a job.
structure Describes (origin : Origin) (job : Job) : Prop where
  kind : job.kind = origin.kind.word
  name : job.name = origin.jobName
  published : job.publishedNames = origin.published
  required : job.requiredNames = origin.required

end Origin

namespace Builder

structure Addition where
  name : String
  steps : List Command
  timelimit : Value
  diskspace : Option String
  publishes : List PublishedArtifact
  requires : List RequiredArtifact

def Addition.job (added : Addition) (machine : Machine) (composed : JobTemplate) (kind : JobKind) : Job :=
  { Builder.job machine composed kind added.name added.steps added.timelimit with
    diskspaceRequired := added.diskspace
    publishes := added.publishes
    requires := added.requires }

end Builder

variable {builder : Builder} {machine : Machine} {template : JobTemplate} {kind : JobKind}
  {parameters : Parameters} {job : Job}

namespace Builder

theorem buildKind_made (built : builder.buildKind machine template parameters kind = .ok job) :
    ∃ traits composed added, builder.kindTraits template parameters kind = .ok traits ∧
      template.extend traits = .ok composed ∧ job = Addition.job added machine composed kind := by
  cases kind with
  | build | muslBuild =>
      obtain ⟨traits, found, built⟩ := bind_ok.mp built
      obtain ⟨composed, extended, built⟩ := bind_ok.mp built
      cases built
      exact ⟨traits, composed, ⟨_, _, _, _, _, _⟩, found, extended, rfl⟩
  | compilerTest | jsTest | libgraalBuild | libgraalTest =>
      obtain ⟨composed, extended, built⟩ := bind_ok.mp built
      cases built
      exact ⟨_, composed, ⟨_, _, _, _, _, _⟩, rfl, extended, rfl⟩
  | runOnly =>
      obtain ⟨label, _, built⟩ := bind_ok.mp built
      obtain ⟨composed, extended, built⟩ := bind_ok.mp built
      obtain ⟨steps, _, built⟩ := bind_ok.mp built
      cases built
      exact ⟨_, composed, ⟨_, _, _, _, _, _⟩, rfl, extended, rfl⟩

end Builder

open Builder

theorem jdk_describes {musl : Bool} (family : kind = .build ∨ kind = .muslBuild ∧ musl = true)
    (built : builder.jdk machine template kind musl = .ok job) :
    ∃ traits composed, builder.registry.getAll (jdkMixins musl) = .ok traits ∧
      template.extend traits = .ok composed ∧ Origin.Describes ⟨kind, musl, "", composed⟩ job := by
  obtain ⟨traits, found, built⟩ := bind_ok.mp built
  obtain ⟨composed, extended, built⟩ := bind_ok.mp built
  cases built
  refine ⟨traits, composed, found, extended, ?_⟩
  rcases family with rfl | ⟨rfl, rfl⟩
  · cases musl with
    | true => exact ⟨rfl, rfl, rfl, rfl⟩
    | false => exact ⟨rfl, rfl, rfl, rfl⟩
  · exact ⟨rfl, rfl, rfl, rfl⟩

-- The traits of the kinds downstream add nothing to the name, so that a job
-- asks for what the JDK of the bare template publishes.
theorem graalTemplate_name {settings : Settings} {composed : JobTemplate}
    (extended : graalTemplate settings template = .ok composed) : composed.name = template.name := by
  rw [(JobTemplate.extend_form extended).name]
  simp [requireLabsjdk, cloneGraal]

theorem runTemplate_name {composed : JobTemplate}
    (extended : template.extend [requireLabsjdk template] = .ok composed) : composed.name = template.name := by
  rw [(JobTemplate.extend_form extended).name]
  simp [requireLabsjdk]

theorem graal_describes (built : builder.buildKind machine template parameters kind = .ok job)
    (downstream : kind ∈ [.compilerTest, .jsTest, .libgraalBuild, .libgraalTest]) :
    ∃ composed, graalTemplate builder.settings template = .ok composed ∧
      Origin.Describes ⟨kind, false, "", composed⟩ job := by
  simp only [List.mem_cons, List.not_mem_nil, or_false] at downstream
  rcases downstream with rfl | rfl | rfl | rfl
  all_goals
    obtain ⟨composed, extended, built⟩ := bind_ok.mp built
    cases built
    have same := graalTemplate_name extended
    refine ⟨composed, extended, rfl, rfl, rfl, ?_⟩
    simp [Origin.required, Origin.suffix, JobKind.needs, Job.requiredNames, labsjdkArtifact,
      Artifact.labsjdk, Artifact.graalCommit, Artifact.libgraal, same]

theorem runOnly_describes (built : runOnly machine template parameters = .ok job) :
    ∃ label composed, labelOf template parameters = .ok label ∧
      template.extend [requireLabsjdk template] = .ok composed ∧
      Origin.Describes ⟨.runOnly, false, label, composed⟩ job := by
  obtain ⟨label, told, built⟩ := bind_ok.mp built
  obtain ⟨composed, extended, built⟩ := bind_ok.mp built
  obtain ⟨steps, _, built⟩ := bind_ok.mp built
  cases built
  have same := runTemplate_name extended
  refine ⟨label, composed, told, extended, rfl, ?_, rfl, ?_⟩
  · simp [job, Origin.jobName, Origin.tail, Origin.suffix, JobKind.stem, String.append_assoc]
  · simp [Origin.required, Origin.suffix, JobKind.needs, Job.requiredNames, labsjdkArtifact,
      Artifact.labsjdk, same]

theorem build_accepted (accepted : unaccepted kind parameters = []) :
    builder.build template kind parameters =
      machineOf kind template >>= fun machine => builder.buildKind machine template parameters kind := by
  simp only [build, accepted]
  rfl

theorem build_unaccepted (refused : unaccepted kind parameters ≠ []) :
    builder.build template kind parameters =
      Value.sorted (unaccepted kind parameters) >>= fun told => .error (.unacceptedParameters kind told) := by
  have told : (!(unaccepted kind parameters).isEmpty) = true := by simpa using refused
  simp only [build, told, if_true]
  rfl

theorem build_kind (built : builder.build template kind parameters = .ok job) :
    ∃ machine, machineOf kind template = .ok machine ∧
      builder.buildKind machine template parameters kind = .ok job := by
  by_cases accepted : unaccepted kind parameters = []
  · rw [build_accepted accepted] at built
    exact bind_ok.mp built
  · rw [build_unaccepted accepted] at built
    obtain ⟨_, _, stopped⟩ := bind_ok.mp built
    cases stopped

theorem build_describes (built : builder.build template kind parameters = .ok job) :
    ∃ origin, builder.origin template kind parameters = .ok origin ∧ origin.Describes job := by
  obtain ⟨machine, _, made⟩ := build_kind built
  have origin_ok : ∀ {label traits composed}, kindLabel template parameters kind = .ok label →
      builder.kindTraits template parameters kind = .ok traits → template.extend traits = .ok composed →
      builder.origin template kind parameters = .ok ⟨kind, kindMusl parameters kind, label, composed⟩ :=
    fun told found extended => bind_ok.mpr ⟨_, told, bind_ok.mpr ⟨_, found, bind_ok.mpr ⟨_, extended, rfl⟩⟩⟩
  cases kind with
  | build =>
      obtain ⟨traits, composed, found, extended, described⟩ := jdk_describes (.inl rfl) made
      exact ⟨_, origin_ok rfl found extended, described⟩
  | muslBuild =>
      obtain ⟨traits, composed, found, extended, described⟩ := jdk_describes (.inr ⟨rfl, rfl⟩) made
      exact ⟨_, origin_ok rfl found extended, described⟩
  | runOnly =>
      obtain ⟨label, composed, told, extended, described⟩ := runOnly_describes made
      exact ⟨_, origin_ok told rfl extended, described⟩
  | compilerTest | jsTest | libgraalBuild | libgraalTest =>
      obtain ⟨composed, extended, described⟩ := graal_describes made (by decide)
      exact ⟨_, origin_ok rfl rfl extended, described⟩

theorem cell_describes {cell : Cell} (built : cell.job builder = .ok job) :
    ∃ origin, cell.origin builder = .ok origin ∧ origin.Describes job := by
  obtain ⟨template, composed, built⟩ := bind_ok.mp built
  obtain ⟨origin, found, described⟩ := build_describes built
  exact ⟨origin, bind_ok.mpr ⟨template, composed, found⟩, described⟩

theorem yields_origins {cells : List Cell} {jobs : List Job} (yields : Yields builder cells jobs) :
    ∃ origins, cells.mapM (Cell.origin builder) = .ok origins ∧ List.Forall₂ Origin.Describes origins jobs := by
  induction yields with
  | nil => exact ⟨[], rfl, .nil⟩
  | cons first _ ih =>
      obtain ⟨origin, found, described⟩ := cell_describes first
      obtain ⟨origins, others, rest⟩ := ih
      exact ⟨origin :: origins, mapM_ok.mpr (.cons found (mapM_ok.mp others)), .cons described rest⟩

end BuildMatrix
