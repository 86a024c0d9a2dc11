import BuildMatrix.Proofs.Building.Acceptance
import BuildMatrix.Proofs.Sorting

namespace BuildMatrix

namespace Builder

-- What is looked at first is reported first, so that each fault tells what held before it.

structure Prepared (template : JobTemplate) (asked : Value) (parameters : Parameters) (label : String)
    (composed : JobTemplate) : Prop extends Admitted template asked parameters .runOnly where
  label : Labelled parameters label
  composed : template.extend [requireLabsjdk template] = .ok composed

inductive FirstFault (builder : Builder) (template : JobTemplate) (asked : Value) (parameters : Parameters) :
    Failure → FailureKind → Prop where
  | kind : (∀ kind : JobKind, asked ≠ .text kind.word) →
      FirstFault builder template asked parameters (.unknownKind asked) .configuration
  | parameters {kind : JobKind} {told : List Value} : asked = .text kind.word → ¬Accepted kind parameters →
      Value.sorted (unaccepted kind parameters) = .ok told →
      FirstFault builder template asked parameters (.unacceptedParameters kind told) .configuration
  | os {kind : JobKind} : asked = .text kind.word → Accepted kind parameters → template.os = none →
      FirstFault builder template asked parameters (.missingField kind .os template.traits) .configuration
  | arch {kind : JobKind} {os : Os} : asked = .text kind.word → Accepted kind parameters → template.os = some os →
      template.arch = none →
      FirstFault builder template asked parameters (.missingField kind .arch template.traits) .configuration
  | mixin {kind : JobKind} {before after : List String} {name : String} : Admitted template asked parameters kind →
      jdkNames parameters kind = before ++ name :: after → Known builder.registry before →
      builder.registry.traits.get? name = none →
      FirstFault builder template asked parameters (Registry.unknown builder.registry.traits (.text name)) .configuration
  | conflict {kind : JobKind} {before after : List Trait} {trait : Trait} {field : SingularField} {held new : Claim} :
      Admitted template asked parameters kind → ¬Agreeing builder.registry template (jdkNames parameters kind) →
      builder.registry.getAll (jdkNames parameters kind) = .ok (before ++ trait :: after) →
      template.StopsAt before trait field held new →
      FirstFault builder template asked parameters
        (.conflict field held new (template.traits ++ (before ++ [trait]).map Trait.title)) .compositionConflict
  | label : Admitted template asked parameters .runOnly → (∀ label, ¬Labelled parameters label) →
      FirstFault builder template asked parameters (.missingLabel template.traits) .configuration
  | commands {label : String} {composed : JobTemplate} : Prepared template asked parameters label composed →
      (given parameters composed).truthy = false →
      FirstFault builder template asked parameters (.missingCommands ("run-" ++ label ++ composed.name)) .configuration
  | iteration {label : String} {composed : JobTemplate} : Prepared template asked parameters label composed →
      (given parameters composed).truthy = true → (given parameters composed).items? = none →
      FirstFault builder template asked parameters (.notIterable (given parameters composed)) .wrongType
  | command {label : String} {composed : JobTemplate} {before after : List Value} {item : Value} {failure : Failure} :
      Prepared template asked parameters label composed → (given parameters composed).truthy = true →
      (given parameters composed).items? = some (before ++ item :: after) → (∀ earlier ∈ before, earlier.WellFormed) →
      CommandFault ("run-" ++ label ++ composed.name) item failure →
      FirstFault builder template asked parameters failure .configuration

variable {builder : Builder} {template composed : JobTemplate} {asked : Value} {parameters : Parameters}
  {kind : JobKind} {label : String} {machine : Machine} {failure : Failure} {reported : FailureKind}

theorem kind_refused (unknown : ∀ kind : JobKind, asked ≠ .text kind.word) :
    JobKind.ofValue asked = .error (.unknownKind asked) := by
  have none : asked.text?.bind JobKind.ofWord? = none := by
    refine Option.eq_none_iff_forall_not_mem.mpr fun kind found => ?_
    obtain ⟨word, text, spelled⟩ := Option.bind_eq_some_iff.mp found
    have same : kind.word = word := by simpa using List.find?_some spelled
    exact unknown kind ((text?_some.mp text).trans (congrArg Value.text same.symm))
  rw [JobKind.ofValue, none]

theorem getAll_missing {registry : Registry} {before after : List String} {name : String} (known : Known registry before)
    (missing : registry.traits.get? name = none) :
    registry.getAll (before ++ name :: after) = .error (Registry.unknown registry.traits (.text name)) := by
  refine mapM_error.mpr ⟨before, name, after, rfl, fun one present => ?_, get_error.mpr ⟨missing, rfl⟩⟩
  obtain ⟨trait, held⟩ := known one present
  exact ⟨trait, get_ok.mpr held⟩

theorem labelOf_missing (missing : ∀ label, ¬Labelled parameters label) :
    labelOf template parameters = .error (.missingLabel template.traits) := by
  unfold labelOf
  split
  · rename_i label told
    obtain ⟨parameter, held, text⟩ := Option.bind_eq_some_iff.mp told
    have fixed : parameter = .fixed (.text label) := by
      cases parameter with
      | computed rule => cases text
      | fixed value => exact congrArg Parameter.fixed (text?_some.mp text)
    split
    · rfl
    · rename_i filled
      exact absurd ⟨fixed ▸ held, by simpa using filled⟩ (missing label)
  · rfl

theorem jdkNames_kind (filled : jdkNames parameters kind ≠ []) : kind = .build ∨ kind = .muslBuild := by
  cases kind with
  | build => exact .inl rfl
  | muslBuild => exact .inr rfl
  | compilerTest | jsTest | libgraalBuild | libgraalTest | runOnly => exact absurd rfl filled

theorem machine_stops (which : asked = .text kind.word) (accepted : Accepted kind parameters)
    (missing : machineOf kind template = .error failure) :
    builder.buildGiven template asked (.named parameters) = .error failure := by
  subst which
  rw [buildGiven_kind, build_accepted (accepted_iff.mp accepted), missing]
  rfl

theorem mixins_stop (admitted : Admitted template asked parameters kind) (filled : jdkNames parameters kind ≠ [])
    (refused : builder.registry.getAll (jdkNames parameters kind) >>= template.extend = .error failure) :
    builder.buildGiven template asked (.named parameters) = .error failure := by
  obtain ⟨machine, same⟩ := admitted_builds admitted
  obtain ⟨names, builds⟩ := jdk_kind (jdkNames_kind filled)
  rw [same, builds, jdk, ← names]
  rcases bind_error.mp refused with missing | ⟨traits, found, stopped⟩
  · exact bind_error.mpr (.inl missing)
  · exact bind_error.mpr (.inr ⟨traits, found, bind_error.mpr (.inl stopped)⟩)

theorem prepared_stops (prepared : Prepared template asked parameters label composed)
    (read : commandsOf composed ("run-" ++ label ++ composed.name) parameters = .error failure) :
    builder.buildGiven template asked (.named parameters) = .error failure := by
  obtain ⟨machine, same⟩ := admitted_builds prepared.toAdmitted
  rw [same]
  refine bind_error.mpr (.inr ⟨label, labelOf_ok prepared.label, ?_⟩)
  exact bind_error.mpr (.inr ⟨composed, prepared.composed, bind_error.mpr (.inl read)⟩)

theorem fault_fails (fault : FirstFault builder template asked parameters failure reported) :
    builder.buildGiven template asked (.named parameters) = .error failure ∧ failure.report.kind = reported := by
  cases fault with
  | kind unknown => exact ⟨bind_error.mpr (.inl (kind_refused unknown)), rfl⟩
  | parameters which refused sorted =>
      subst which
      refine ⟨?_, rfl⟩
      rw [buildGiven_kind, build_unaccepted fun none => refused (accepted_iff.mpr none), sorted]
      rfl
  | os which accepted missing => exact ⟨machine_stops which accepted (by rw [machineOf, missing]), rfl⟩
  | arch which accepted system missing =>
      exact ⟨machine_stops which accepted (by rw [machineOf, system, missing]), rfl⟩
  | mixin admitted split known missing =>
      refine ⟨mixins_stop admitted (by rw [split]; simp) ?_, rfl⟩
      rw [split, getAll_missing known missing]
      rfl
  | @conflict kind before after trait field held new admitted apart found stops =>
      have filled : jdkNames parameters kind ≠ [] := by
        intro none
        rw [none] at apart
        exact apart (by simp [Agreeing])
      have stopped := JobTemplate.extend_stops.mpr ⟨before, trait, after, field, held, new, rfl, stops, rfl⟩
      exact ⟨mixins_stop admitted filled (bind_error.mpr (.inr ⟨_, found, stopped⟩)), rfl⟩
  | label admitted missing =>
      obtain ⟨machine, same⟩ := admitted_builds admitted
      refine ⟨?_, rfl⟩
      rw [same]
      exact bind_error.mpr (.inl (labelOf_missing missing))
  | commands prepared empty =>
      refine ⟨prepared_stops prepared ?_, rfl⟩
      rw [commandsOf_given, empty]
      rfl
  | iteration prepared filled scalar =>
      refine ⟨prepared_stops prepared ?_, rfl⟩
      rw [commandsOf_given, if_pos filled, Value.items, scalar]
      rfl
  | command prepared filled walked earlier fault =>
      refine ⟨prepared_stops prepared ?_, Command.fault_reported fault⟩
      rw [commandsOf_items _ filled walked]
      exact mapM_error.mpr ⟨_, _, _, rfl, fun one present => Command.reads_iff.mpr (earlier one present),
        Command.refused_iff.mpr fault⟩

theorem known_or_missing (registry : Registry) (names : List String) : Known registry names ∨
    ∃ before name after, names = before ++ name :: after ∧ Known registry before ∧ registry.traits.get? name = none := by
  cases found : registry.getAll names with
  | ok traits => exact .inl (getAll_known.mp ⟨traits, found⟩)
  | error failure =>
      obtain ⟨before, name, after, rfl, earlier, failed⟩ := mapM_error.mp found
      refine .inr ⟨before, name, after, rfl, fun one present => ?_, (get_error.mp failed).1⟩
      obtain ⟨trait, got⟩ := earlier one present
      exact ⟨trait, get_ok.mp got⟩

theorem mixins_or_fault (builder : Builder) (admitted : Admitted template asked parameters kind) :
    (Known builder.registry (jdkNames parameters kind) ∧
      Agreeing builder.registry template (jdkNames parameters kind)) ∨
    ∃ failure reported, FirstFault builder template asked parameters failure reported := by
  rcases known_or_missing builder.registry (jdkNames parameters kind) with known | missing
  · by_cases agreeing : Agreeing builder.registry template (jdkNames parameters kind)
    · exact .inl ⟨known, agreeing⟩
    · obtain ⟨traits, found⟩ := getAll_known.mpr known
      cases extended : template.extend traits with
      | ok composed =>
          have takes := (extend_takes admitted.machine).mp ⟨composed, extended⟩
          exact absurd ((agreeing_takes found).mpr takes) agreeing
      | error failure =>
          obtain ⟨before, trait, after, field, held, new, rfl, stops, rfl⟩ := JobTemplate.extend_stops.mp extended
          exact .inr ⟨_, _, .conflict admitted agreeing found stops⟩
  · obtain ⟨before, name, after, split, known, missing⟩ := missing
    exact .inr ⟨_, _, .mixin admitted split known missing⟩

-- Texts and tables can be walked too, but what is found in them is text.
theorem wellFormed_list {value : Value} {items : List Value} (filled : value.truthy = true)
    (walked : value.items? = some items) (formed : ∀ item ∈ items, item.WellFormed) :
    value = .list items ∧ items ≠ [] := by
  have nonempty : items ≠ [] := by
    cases value with
    | null | bool flag | int number | real number => cases walked
    | text string | list held | table rows =>
        cases walked
        simpa [Value.truthy] using filled
  obtain ⟨first, present⟩ := List.exists_mem_of_ne_nil items nonempty
  have other : ∀ string, first ≠ .text string := by
    rintro string rfl
    cases formed _ present
  refine ⟨?_, nonempty⟩
  cases value with
  | null | bool flag | int number | real number => cases walked
  | list held => exact congrArg Value.list (Option.some.inj walked)
  | text string =>
      cases walked
      obtain ⟨letter, _, equal⟩ := List.mem_map.mp present
      exact absurd equal.symm (other _)
  | table rows =>
      cases walked
      obtain ⟨row, _, equal⟩ := List.mem_map.mp present
      exact absurd equal.symm (other _)

theorem runnable_or_fault (admitted : Admitted template asked parameters .runOnly) : Runnable template parameters ∨
    ∃ failure reported, FirstFault builder template asked parameters failure reported := by
  by_cases labelled : ∃ label, Labelled parameters label
  case neg => exact .inr ⟨_, _, .label admitted fun label held => labelled ⟨label, held⟩⟩
  obtain ⟨label, held⟩ := labelled
  obtain ⟨composed, extended⟩ := runOnly_composes admitted.machine
  have prepared : Prepared template asked parameters label composed := ⟨admitted, held, extended⟩
  cases filled : (given parameters composed).truthy with
  | false => exact .inr ⟨_, _, .commands prepared filled⟩
  | true =>
      cases walked : (given parameters composed).items? with
      | none => exact .inr ⟨_, _, .iteration prepared filled walked⟩
      | some items =>
          cases read : items.mapM (Command.ofValue ("run-" ++ label ++ composed.name)) with
          | ok commands =>
              have formed : ∀ item ∈ items, item.WellFormed := by
                intro item present
                obtain ⟨command, _, got⟩ := related_left (mapM_ok.mp read) present
                exact Command.reads_iff.mp ⟨command, got⟩
              obtain ⟨list, nonempty⟩ := wellFormed_list filled walked formed
              exact .inl ⟨⟨label, held⟩, composed, items, extended, list, nonempty, formed⟩
          | error failure =>
              obtain ⟨before, item, after, rfl, earlier, failed⟩ := mapM_error.mp read
              exact .inr ⟨failure, _, .command prepared filled walked
                (fun one present => Command.reads_iff.mp (earlier one present)) (Command.refused_iff.mp failed)⟩

theorem admitted_settled (admitted : Admitted template asked parameters kind) :
    Buildable builder template asked parameters kind ∨
    ∃ failure reported, FirstFault builder template asked parameters failure reported := by
  rcases mixins_or_fault builder admitted with ⟨known, agreeing⟩ | fault
  · by_cases commands : kind = .runOnly
    · subst commands
      rcases runnable_or_fault admitted with runnable | fault
      · exact .inl ⟨admitted, known, agreeing, fun _ => runnable⟩
      · exact .inr fault
    · exact .inl ⟨admitted, known, agreeing, fun same => absurd same commands⟩
  · exact .inr fault

theorem buildable_or_fault (builder : Builder) (template : JobTemplate) (asked : Value) (parameters : Parameters) :
    (∃ kind, Buildable builder template asked parameters kind) ∨
    (∃ failure reported, FirstFault builder template asked parameters failure reported) ∨
    ∃ kind : JobKind, asked = .text kind.word ∧ ¬Accepted kind parameters := by
  by_cases spelled : ∃ kind : JobKind, asked = .text kind.word
  case neg => exact .inr (.inl ⟨_, _, .kind fun kind same => spelled ⟨kind, same⟩⟩)
  obtain ⟨kind, which⟩ := spelled
  by_cases accepted : Accepted kind parameters
  case neg => exact .inr (.inr ⟨kind, which, accepted⟩)
  cases system : template.os with
  | none => exact .inr (.inl ⟨_, _, .os which accepted system⟩)
  | some os =>
      cases architecture : template.arch with
      | none => exact .inr (.inl ⟨_, _, .arch which accepted system architecture⟩)
      | some arch =>
          have admitted : Admitted template asked parameters kind :=
            ⟨which, accepted, ⟨⟨os, system⟩, ⟨arch, architecture⟩⟩⟩
          rcases admitted_settled admitted with buildable | fault
          · exact .inl ⟨kind, buildable⟩
          · exact .inr (.inl fault)

theorem texts_settled (texts : Value.Texts parameters.names) :
    (∃ kind, Buildable builder template asked parameters kind) ∨
    ∃ failure reported, FirstFault builder template asked parameters failure reported := by
  rcases buildable_or_fault builder template asked parameters with buildable | fault | ⟨kind, which, refused⟩
  · exact .inl buildable
  · exact .inr fault
  · have part : Value.Texts (unaccepted kind parameters) :=
      fun name present => texts name (List.mem_of_mem_filter present)
    obtain ⟨told, sorted, _⟩ := Value.sorted_texts part
    exact .inr ⟨_, _, .parameters which refused sorted⟩

theorem refused_fails (refused : ¬Accepted kind parameters) :
    ∃ failure, builder.buildGiven template (.text kind.word) (.named parameters) = .error failure := by
  rw [buildGiven_kind, build_unaccepted fun none => refused (accepted_iff.mpr none)]
  cases Value.sorted (unaccepted kind parameters) with
  | ok told => exact ⟨_, rfl⟩
  | error failure => exact ⟨failure, rfl⟩

theorem built_iff : (∃ job, builder.buildGiven template asked (.named parameters) = .ok job) ↔
    ∃ kind, Buildable builder template asked parameters kind := by
  constructor
  · rintro ⟨job, built⟩
    rcases buildable_or_fault builder template asked parameters with buildable | ⟨failure, reported, fault⟩ | unfit
    · exact buildable
    · cases built.symm.trans (fault_fails fault).1
    · obtain ⟨kind, rfl, refused⟩ := unfit
      obtain ⟨failure, failed⟩ := refused_fails refused
      cases built.symm.trans failed
  · rintro ⟨kind, buildable⟩
    exact buildable_builds buildable

theorem failed_iff (texts : Value.Texts parameters.names) :
    builder.buildGiven template asked (.named parameters) = .error failure ∧ failure.report.kind = reported ↔
      FirstFault builder template asked parameters failure reported := by
  constructor
  · rintro ⟨failed, rfl⟩
    rcases texts_settled texts with ⟨kind, buildable⟩ | ⟨other, reported, fault⟩
    · obtain ⟨job, built⟩ := buildable_builds buildable
      cases built.symm.trans failed
    · obtain ⟨stopped, rfl⟩ := fault_fails fault
      cases stopped.symm.trans failed
      exact fault
  · exact fault_fails

theorem downstream_buildable (downstream : kind ∈ [JobKind.compilerTest, .jsTest, .libgraalBuild, .libgraalTest]) :
    (∃ other, Buildable builder template (.text kind.word) parameters other) ↔
      Accepted kind parameters ∧ HasMachine template := by
  constructor
  · rintro ⟨other, buildable⟩
    have same : kind = other := by
      have words : kind.word = other.word := Value.text.inj buildable.asked
      have spelled := JobKind.ofWord?_word kind
      rw [words, JobKind.ofWord?_word] at spelled
      exact (Option.some.inj spelled).symm
    subst same
    exact ⟨buildable.accepted, buildable.machine⟩
  · rintro ⟨accepted, machine⟩
    have none : jdkNames parameters kind = [] ∧ kind ≠ .runOnly := by
      simp only [List.mem_cons, List.not_mem_nil, or_false] at downstream
      rcases downstream with rfl | rfl | rfl | rfl <;> exact ⟨rfl, nofun⟩
    obtain ⟨bare, other⟩ := none
    refine ⟨kind, ⟨rfl, accepted, machine⟩, ?_, ?_, fun same => absurd same other⟩
    · rw [bare]
      exact nofun
    · rw [bare]
      exact nofun

-- A job is built where everything holds, and otherwise what comes first is reported.
-- Names that are no texts may have no order to be told in. The kinds downstream that
-- bring their own commands ask for nothing beyond a machine.
theorem buildGiven_exact (builder : Builder) (template : JobTemplate) (asked : Value) (parameters : Parameters) :
    ((∃ job, builder.buildGiven template asked (.named parameters) = .ok job) ↔
      ∃ kind, Buildable builder template asked parameters kind) ∧
    (Value.Texts parameters.names → ∀ failure reported,
      builder.buildGiven template asked (.named parameters) = .error failure ∧ failure.report.kind = reported ↔
        FirstFault builder template asked parameters failure reported) ∧
    ∀ kind ∈ [JobKind.compilerTest, .jsTest, .libgraalBuild, .libgraalTest],
      (∃ job, builder.buildGiven template (.text kind.word) (.named parameters) = .ok job) ↔
        Accepted kind parameters ∧ HasMachine template := by
  refine ⟨built_iff, fun texts failure reported => failed_iff texts, fun kind downstream => ?_⟩
  rw [built_iff]
  exact downstream_buildable downstream

def smokeTemplate : JobTemplate := { JobTemplate.empty with os := some .linux, arch := some "amd64" }

def smoke (commands : Parameter) : Parameters :=
  .ofList [("label", .fixed (.text "smoke")), ("commands", commands)]

def smokeRule : Parameter := .computed fun composed => .list [.list [.text "echo", .text composed.name]]

theorem smoke_settled : ∃ builder : Builder,
    (∃ kind, Buildable builder smokeTemplate (.text "run-only") (smoke smokeRule) kind) ∧
    FirstFault builder smokeTemplate (.text "run-only") (smoke (.fixed (.int 7))) (.notIterable (.int 7)) .wrongType ∧
    ∃ job, builder.buildGiven smokeTemplate (.text "js-test") (.named ∅) = .ok job := by
  have texts : Value.Texts (smoke (.fixed (.int 7))).names := by
    have names : (smoke (.fixed (.int 7))).names = [.text "label", .text "commands"] := rfl
    simp [Value.Texts, names]
  have built : ((Builder.make none none).buildGiven smokeTemplate (.text "run-only")
      (.named (smoke smokeRule))).isOk = true := rfl
  obtain ⟨acceptable, _, _⟩ := buildGiven_exact (Builder.make none none) smokeTemplate (.text "run-only")
    (smoke smokeRule)
  obtain ⟨_, refusable, _⟩ := buildGiven_exact (Builder.make none none) smokeTemplate (.text "run-only")
    (smoke (.fixed (.int 7)))
  obtain ⟨_, _, downstream⟩ := buildGiven_exact (Builder.make none none) smokeTemplate (.text "js-test") ∅
  have accepted : Accepted .jsTest ∅ := by
    intro name present
    cases present
  refine ⟨Builder.make none none, acceptable.mp (isOk_value built), (refusable texts _ _).mp ⟨rfl, rfl⟩, ?_⟩
  exact (downstream .jsTest (by simp)).mpr ⟨accepted, ⟨.linux, rfl⟩, ⟨"amd64", rfl⟩⟩

end Builder
end BuildMatrix
