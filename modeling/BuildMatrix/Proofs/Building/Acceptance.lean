import BuildMatrix.Proofs.Building.Commands
import BuildMatrix.Proofs.Composition.Conflicts
import BuildMatrix.Proofs.Generation.Origins

namespace BuildMatrix

namespace Builder

-- What has to hold for a job to be built, in the order in which it is looked at.

def Accepted (kind : JobKind) (parameters : Parameters) : Prop :=
  ∀ name ∈ parameters.names, ∃ word ∈ kind.acceptedParameters, name = .text word

structure HasMachine (template : JobTemplate) : Prop where
  os : ∃ os, template.os = some os
  arch : ∃ arch, template.arch = some arch

structure Admitted (template : JobTemplate) (asked : Value) (parameters : Parameters) (kind : JobKind) : Prop where
  asked : asked = .text kind.word
  accepted : Accepted kind parameters
  machine : HasMachine template

-- The traits that building a JDK brings along. A template can take one that sets
-- no system, and no architecture but its own.

def jdkNames (parameters : Parameters) (kind : JobKind) : List String :=
  match kind with
  | .build | .muslBuild => jdkMixins (kindMusl parameters kind)
  | _ => []

def Known (registry : Registry) (names : List String) : Prop :=
  ∀ name ∈ names, ∃ trait, registry.traits.get? name = some trait

def Takes (template : JobTemplate) (trait : Trait) : Prop :=
  trait.os = none ∧ ∀ arch, trait.arch = some arch → template.arch = some arch

def Agreeing (registry : Registry) (template : JobTemplate) (names : List String) : Prop :=
  ∀ name ∈ names, ∀ trait, registry.traits.get? name = some trait → Takes template trait

-- What a job that only runs commands is given. A rule for the commands is asked about
-- the template on which the job runs.

def Labelled (parameters : Parameters) (label : String) : Prop :=
  parameters.named.get? "label" = some (.fixed (.text label)) ∧ label ≠ ""

def given (parameters : Parameters) (composed : JobTemplate) : Value :=
  (parameters.valueAt? "commands" composed).getD .null

structure Runnable (template : JobTemplate) (parameters : Parameters) : Prop where
  label : ∃ label, Labelled parameters label
  commands : ∃ composed items, template.extend [requireLabsjdk template] = .ok composed ∧
    given parameters composed = .list items ∧ items ≠ [] ∧ ∀ item ∈ items, item.WellFormed

structure Buildable (builder : Builder) (template : JobTemplate) (asked : Value) (parameters : Parameters)
    (kind : JobKind) : Prop extends Admitted template asked parameters kind where
  known : Known builder.registry (jdkNames parameters kind)
  agreeing : Agreeing builder.registry template (jdkNames parameters kind)
  runnable : kind = .runOnly → Runnable template parameters

variable {builder : Builder} {template composed : JobTemplate} {asked : Value} {parameters : Parameters}
  {kind : JobKind} {traits : List Trait} {names : List String}

theorem text?_some {value : Value} {string : String} : value.text? = some string ↔ value = .text string := by
  cases value with
  | text other => simp [Value.text?]
  | null | bool flag | int number | real number | list items | table rows => simp [Value.text?]

theorem accepted_iff : Accepted kind parameters ↔ unaccepted kind parameters = [] := by
  have single : ∀ name : Value, (∃ word ∈ kind.acceptedParameters, name = .text word) ↔
      name.text?.any kind.acceptedParameters.contains = true := by
    intro name
    simp [Option.any_eq_true, text?_some, and_comm]
  unfold Accepted unaccepted
  simp only [List.filter_eq_nil_iff, single, Bool.not_eq_true', Bool.not_eq_false]

theorem buildGiven_kind (kind : JobKind) (parameters : Parameters) :
    builder.buildGiven template (.text kind.word) (.named parameters) = builder.build template kind parameters := by
  unfold buildGiven JobKind.ofValue
  simp only [Value.text?, Option.bind_some, JobKind.ofWord?_word]
  rfl

theorem admitted_builds (admitted : Admitted template asked parameters kind) : ∃ machine,
    builder.buildGiven template asked (.named parameters) = builder.buildKind machine template parameters kind := by
  obtain ⟨rfl, accepted, ⟨⟨os, system⟩, arch, architecture⟩⟩ := admitted
  have machine : machineOf kind template = .ok ⟨os, arch⟩ := by rw [machineOf, system, architecture]
  refine ⟨⟨os, arch⟩, ?_⟩
  rw [buildGiven_kind, build_accepted (accepted_iff.mp accepted), machine]
  rfl

theorem composable_takes (machine : HasMachine template) :
    template.Composable traits ↔ ∀ trait ∈ traits, Takes template trait := by
  obtain ⟨⟨os, system⟩, arch, architecture⟩ := machine
  unfold JobTemplate.Composable JobTemplate.OneSystem JobTemplate.OneArchitecture JobTemplate.systems
    JobTemplate.architectures Takes
  rw [system, architecture]
  constructor
  · intro fits trait present
    obtain ⟨single, alike⟩ := fits
    constructor
    · cases told : trait.os with
      | none => rfl
      | some other =>
          have held : other ∈ traits.filterMap Trait.os := List.mem_filterMap.mpr ⟨trait, present, told⟩
          have filled := List.length_pos_of_mem held
          simp only [Option.toList_some, List.length_append, List.length_singleton] at single
          omega
    · intro other told
      have held : other ∈ traits.filterMap Trait.arch := List.mem_filterMap.mpr ⟨trait, present, told⟩
      exact congrArg some (alike arch (by simp) other (List.mem_append_right _ held))
  · intro takes
    have none : traits.filterMap Trait.os = [] :=
      List.filterMap_eq_nil_iff.mpr fun trait present => (takes trait present).1
    have same : ∀ one ∈ (some arch).toList ++ traits.filterMap Trait.arch, one = arch := by
      intro one present
      rcases List.mem_append.mp present with own | added
      · exact List.mem_singleton.mp own
      · obtain ⟨trait, held, told⟩ := List.mem_filterMap.mp added
        exact (Option.some.inj ((takes trait held).2 one told)).symm
    exact ⟨by simp [none], fun one first other second => (same one first).trans (same other second).symm⟩

theorem extend_takes (machine : HasMachine template) :
    (∃ composed, template.extend traits = .ok composed) ↔ ∀ trait ∈ traits, Takes template trait := by
  rw [JobTemplate.extend_fits, composable_takes machine]

section
variable {registry : Registry}

theorem getAll_known : (∃ traits, registry.getAll names = .ok traits) ↔ Known registry names := by
  constructor
  · intro found name present
    obtain ⟨traits, found⟩ := found
    obtain ⟨trait, _, got⟩ := related_left (mapM_ok.mp found) present
    exact ⟨trait, get_ok.mp got⟩
  · intro known
    refine mapM_succeeds fun name present => ?_
    obtain ⟨trait, held⟩ := known name present
    exact ⟨trait, get_ok.mpr held⟩

theorem agreeing_takes (found : registry.getAll names = .ok traits) :
    Agreeing registry template names ↔ ∀ trait ∈ traits, Takes template trait := by
  have each := mapM_ok.mp found
  constructor
  · intro agreeing trait present
    obtain ⟨name, listed, got⟩ := related_right each present
    exact agreeing name listed trait (get_ok.mp got)
  · intro takes name present trait held
    obtain ⟨other, listed, got⟩ := related_left each present
    have same : other = trait := Option.some.inj ((get_ok.mp got).symm.trans held)
    rw [← same]
    exact takes other listed

end

theorem required_taken (template : JobTemplate) : Takes template (requireLabsjdk template) := ⟨rfl, nofun⟩

theorem runOnly_composes (machine : HasMachine template) :
    ∃ composed, template.extend [requireLabsjdk template] = .ok composed :=
  (extend_takes machine).mpr (by simp [required_taken])

theorem graal_composes (settings : Settings) (machine : HasMachine template) :
    ∃ composed, graalTemplate settings template = .ok composed := by
  have cloned : Takes template (cloneGraal settings template) := ⟨rfl, nofun⟩
  exact (extend_takes machine).mpr (by simp [required_taken, cloned])

theorem labelOf_ok {label : String} (labelled : Labelled parameters label) :
    labelOf template parameters = .ok label := by
  obtain ⟨held, filled⟩ := labelled
  have some : label.isEmpty = false := by simpa using filled
  simp only [labelOf, held, Option.bind_some, Parameter.text?, Value.text?, some]
  rfl

theorem commandsOf_given (composed : JobTemplate) (name : String) (parameters : Parameters) :
    commandsOf composed name parameters =
      if (given parameters composed).truthy then
        (given parameters composed).items >>= fun items => items.mapM (Command.ofValue name)
      else .error (.missingCommands name) := by
  unfold commandsOf given
  dsimp only
  cases ((parameters.valueAt? "commands" composed).getD .null).truthy with
  | true => rfl
  | false => rfl

theorem commandsOf_items {items : List Value} (name : String) (filled : (given parameters composed).truthy = true)
    (walked : (given parameters composed).items? = some items) :
    commandsOf composed name parameters = items.mapM (Command.ofValue name) := by
  rw [commandsOf_given, if_pos filled, Value.items, walked]
  rfl

theorem runOnly_builds {machine : Machine} {label : String} {commands : List Command}
    (labelled : Labelled parameters label)
    (composes : template.extend [requireLabsjdk template] = .ok composed)
    (read : commandsOf composed ("run-" ++ label ++ composed.name) parameters = .ok commands) :
    ∃ job, runOnly machine template parameters = .ok job :=
  ⟨_, bind_ok.mpr ⟨label, labelOf_ok labelled, bind_ok.mpr ⟨composed, composes, bind_ok.mpr ⟨commands, read, rfl⟩⟩⟩⟩

theorem jdk_kind {machine : Machine} (kinds : kind = .build ∨ kind = .muslBuild) :
    jdkNames parameters kind = jdkMixins (kindMusl parameters kind) ∧
      builder.buildKind machine template parameters kind =
        builder.jdk machine template kind (kindMusl parameters kind) := by
  rcases kinds with rfl | rfl
  · exact ⟨rfl, rfl⟩
  · exact ⟨rfl, rfl⟩

theorem buildable_builds (buildable : Buildable builder template asked parameters kind) :
    ∃ job, builder.buildGiven template asked (.named parameters) = .ok job := by
  obtain ⟨machine, same⟩ := admitted_builds buildable.toAdmitted
  have stated := buildable.machine
  rw [same]
  cases kind with
  | build | muslBuild =>
      obtain ⟨traits, found⟩ := getAll_known.mpr buildable.known
      obtain ⟨composed, extended⟩ := (extend_takes stated).mpr ((agreeing_takes found).mp buildable.agreeing)
      exact ⟨_, bind_ok.mpr ⟨traits, found, bind_ok.mpr ⟨composed, extended, rfl⟩⟩⟩
  | compilerTest | jsTest | libgraalBuild | libgraalTest =>
      obtain ⟨composed, extended⟩ := graal_composes builder.settings stated
      exact ⟨_, bind_ok.mpr ⟨composed, extended, rfl⟩⟩
  | runOnly =>
      obtain ⟨⟨label, labelled⟩, composed, items, extended, held, filled, formed⟩ := buildable.runnable rfl
      have some : (given parameters composed).truthy = true := by simpa [held, Value.truthy] using filled
      have walked : (given parameters composed).items? = Option.some items := by rw [held, Value.items?]
      have each : ∀ item ∈ items, ∃ command,
          Command.ofValue ("run-" ++ label ++ composed.name) item = .ok command :=
        fun item present => Command.wellFormed_reads (formed item present)
      obtain ⟨commands, read⟩ := mapM_succeeds each
      exact runOnly_builds labelled extended ((commandsOf_items _ some walked).trans read)

end Builder
end BuildMatrix
