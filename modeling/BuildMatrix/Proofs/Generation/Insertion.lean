import BuildMatrix.Proofs.Generation.Cells
import BuildMatrix.Proofs.Generation.Origins
import BuildMatrix.Proofs.Json.Insertion

namespace BuildMatrix

-- Traits, and what is composed of them, that differ only in the order in which
-- mappings were filled.

structure Trait.SameEntries (one other : Trait) : Prop where
  fields : other = { one with
    environment := other.environment
    downloads := other.downloads
    packages := other.packages }
  environment : one.environment.SameEntries other.environment
  downloads : one.downloads.SameEntries other.downloads
  packages : one.packages.SameEntries other.packages

structure JobTemplate.SameEntries (one other : JobTemplate) : Prop where
  fields : other = { one with
    environment := other.environment
    downloads := other.downloads
    packages := other.packages }
  environment : one.environment.SameEntries other.environment
  downloads : one.downloads.SameEntries other.downloads
  packages : one.packages.SameEntries other.packages

structure Registry.SameEntries (one other : Registry) : Prop where
  names : other.traits.keys = one.traits.keys
  base : other.base = one.base
  traits : ∀ name trait second, one.traits.get? name = some trait → other.traits.get? name = some second →
    trait.SameEntries second

theorem Mapping.sameEntries_self {α : Type} (mapping : Mapping α) : mapping.SameEntries mapping := fun _ => rfl

theorem Trait.sameEntries_self (trait : Trait) : trait.SameEntries trait :=
  ⟨rfl, Mapping.sameEntries_self _, Mapping.sameEntries_self _, Mapping.sameEntries_self _⟩

theorem JobTemplate.sameEntries_self (template : JobTemplate) : template.SameEntries template :=
  ⟨rfl, Mapping.sameEntries_self _, Mapping.sameEntries_self _, Mapping.sameEntries_self _⟩

theorem Registry.sameEntries_self (registry : Registry) : registry.SameEntries registry where
  names := rfl
  base := rfl
  traits name trait second found again := by
    rw [found] at again
    cases again
    exact trait.sameEntries_self

-- Parameters whose rules do not look at the order of keys.
def Parameters.Blind (parameters : Parameters) : Prop :=
  ∀ name one other, JobTemplate.SameEntries one other → parameters.valueAt? name other = parameters.valueAt? name one

variable {template second : JobTemplate} {registry partner : Registry} {parameters : Parameters}

theorem merge_entries {trait other : Trait} (same : template.SameEntries second) (upper : trait.SameEntries other) :
    InStep JobTemplate.SameEntries (template.merge trait) (second.merge other) := by
  obtain ⟨fields, environment, downloads, packages⟩ := same
  obtain ⟨given, above, fetched, installed⟩ := upper
  rw [fields, given]
  unfold JobTemplate.merge
  refine inStep_after fun system => ?_
  refine inStep_after fun architecture => ?_
  exact .succeed ⟨rfl, Mapping.sameEntries_overlay environment above, Mapping.sameEntries_overlay downloads fetched,
    Mapping.sameEntries_overlay packages installed⟩

theorem extend_entries {traits others : List Trait} (same : template.SameEntries second)
    (upper : List.Forall₂ Trait.SameEntries traits others) :
    InStep JobTemplate.SameEntries (template.extend traits) (second.extend others) := by
  refine inStep_foldlM ?_ upper same
  intro state other trait partner begun added
  exact merge_entries begun added

theorem getAll_entries (same : registry.SameEntries partner) (names : List String) :
    InStep (List.Forall₂ Trait.SameEntries) (registry.getAll names) (partner.getAll names) := by
  refine inStep_mapM (fun name => ?_) names
  have known : registry.traits.get? name = none ↔ partner.traits.get? name = none := by
    rw [Mapping.get?_none_iff, Mapping.get?_none_iff, same.names]
  unfold Registry.get Registry.unknown
  cases found : registry.traits.get? name with
  | none =>
      rw [known.mp found, same.names]
      exact .fail _
  | some trait =>
      cases again : partner.traits.get? name with
      | none => exact absurd (known.mpr again) (by simp [found])
      | some other => exact .succeed (same.traits name trait other found again)

theorem orCatalogue_entries (same : registry.SameEntries partner) :
    (Registry.orCatalogue (some registry)).SameEntries (Registry.orCatalogue (some partner)) := by
  have empty : partner.isEmpty = registry.isEmpty := by
    have size := congrArg List.isEmpty same.names
    simpa [Mapping.keys, Registry.isEmpty, Mapping.isEmpty] using size
  unfold Registry.orCatalogue
  dsimp only
  rw [empty]
  split
  · exact Registry.catalogue.sameEntries_self
  · exact same

theorem template_entries (same : registry.SameEntries partner) (combination : Combination) :
    InStep JobTemplate.SameEntries (combination.template registry) (combination.template partner) := by
  unfold Combination.template Registry.resolve
  rw [same.base]
  refine inStep_bind (getAll_entries same _) fun traits others upper => ?_
  exact extend_entries JobTemplate.empty.sameEntries_self upper

namespace Builder

variable {settings : Settings}

theorem jdk_entries (same : template.SameEntries second) (known : registry.SameEntries partner) (machine : Machine)
    (kind : JobKind) (musl : Bool) :
    InStep Job.SameEntries ((⟨settings, registry⟩ : Builder).jdk machine template kind musl)
      ((⟨settings, partner⟩ : Builder).jdk machine second kind musl) := by
  refine inStep_bind (getAll_entries known _) fun traits others upper => ?_
  refine inStep_bind (extend_entries same upper) fun composed other belong => ?_
  obtain ⟨fields, environment, downloads, packages⟩ := belong
  rw [fields]
  exact .succeed ⟨rfl, environment, downloads, packages⟩

theorem requireLabsjdk_same (same : template.SameEntries second) : requireLabsjdk second = requireLabsjdk template := by
  rw [same.fields]
  rfl

theorem graalTemplate_entries (same : template.SameEntries second) :
    InStep JobTemplate.SameEntries (graalTemplate settings template) (graalTemplate settings second) := by
  have cloned : cloneGraal settings second = cloneGraal settings template := by
    rw [same.fields]
    rfl
  unfold graalTemplate
  rw [requireLabsjdk_same same, cloned]
  exact extend_entries same (List.forall₂_same.mpr fun trait _ => trait.sameEntries_self)

theorem runOnly_entries (same : template.SameEntries second) (blind : parameters.Blind) (machine : Machine) :
    InStep Job.SameEntries (runOnly machine template parameters) (runOnly machine second parameters) := by
  have label : labelOf second parameters = labelOf template parameters := by
    rw [same.fields]
    rfl
  have artifact : labsjdkArtifact second = labsjdkArtifact template := by
    rw [same.fields]
    rfl
  have required : List.Forall₂ Trait.SameEntries [requireLabsjdk template] [requireLabsjdk second] := by
    rw [requireLabsjdk_same same]
    exact .cons (Trait.sameEntries_self _) .nil
  unfold runOnly
  rw [label, artifact]
  refine inStep_after fun label => ?_
  refine inStep_bind (extend_entries same required) fun composed other belong => ?_
  have named : other.name = composed.name := by rw [belong.fields]
  have commands : ∀ name, commandsOf other name parameters = commandsOf composed name parameters := by
    intro name
    unfold commandsOf
    rw [blind "commands" _ _ belong]
  dsimp only
  rw [named, commands]
  obtain ⟨fields, environment, downloads, packages⟩ := belong
  refine inStep_after fun steps => ?_
  rw [fields]
  exact .succeed ⟨rfl, environment, downloads, packages⟩

theorem buildKind_entries (same : template.SameEntries second) (known : registry.SameEntries partner)
    (blind : parameters.Blind) (machine : Machine) (kind : JobKind) :
    InStep Job.SameEntries ((⟨settings, registry⟩ : Builder).buildKind machine template parameters kind)
      ((⟨settings, partner⟩ : Builder).buildKind machine second parameters kind) := by
  cases kind with
  | build | muslBuild => exact jdk_entries same known machine _ _
  | compilerTest | jsTest | libgraalBuild | libgraalTest =>
      have artifact : labsjdkArtifact second = labsjdkArtifact template := by
        rw [same.fields]
        rfl
      refine inStep_bind (graalTemplate_entries same) fun composed other belong => ?_
      obtain ⟨fields, environment, downloads, packages⟩ := belong
      rw [fields, artifact]
      exact .succeed ⟨rfl, environment, downloads, packages⟩
  | runOnly => exact runOnly_entries same blind machine

theorem build_entries (same : template.SameEntries second) (known : registry.SameEntries partner)
    (blind : parameters.Blind) (kind : JobKind) :
    InStep Job.SameEntries ((⟨settings, registry⟩ : Builder).build template kind parameters)
      ((⟨settings, partner⟩ : Builder).build second kind parameters) := by
  by_cases accepted : unaccepted kind parameters = []
  · have machines : machineOf kind second = machineOf kind template := by
      rw [same.fields]
      rfl
    rw [build_accepted accepted, build_accepted accepted, machines]
    exact inStep_after fun machine => buildKind_entries same known blind machine kind
  · rw [build_unaccepted accepted, build_unaccepted accepted]
    exact inStep_after fun told => .fail _

end Builder

theorem jobsInTurn_entries (settings : Settings) (known : registry.SameEntries partner) {matrices : List Matrix}
    (blind : ∀ matrix ∈ matrices, matrix.parameters.Blind) :
    InStep (List.Forall₂ (SameGroup Job.SameEntries)) (jobsInTurn ⟨settings, registry⟩ matrices)
      (jobsInTurn ⟨settings, partner⟩ matrices) := by
  refine inTurn_inStep matrices fun matrix present => ?_
  refine inStep_bind (inStep_mapM (template_entries (orCatalogue_entries known)) _) fun templates others same => ?_
  exact inStep_each (fun _ _ belong => Builder.build_entries belong known (blind matrix present) matrix.kind) same

namespace Pipeline

theorem generate_entries (settings : Option Settings) (known : registry.SameEntries partner)
    {matrices : Option (List Matrix)} (blind : ∀ matrix ∈ matrices.getD Matrix.defaults, matrix.parameters.Blind) :
    InStep WrittenAs (generate (some registry) matrices settings) (generate (some partner) matrices settings) := by
  rw [generate_turns, generate_turns]
  refine inStep_bind (jobsInTurn_entries _ (orCatalogue_entries known) blind) fun groups others same => ?_
  exact resolve_entries (arrange_same same)

-- One text for one record, with its keys in order. In what order anything was put
-- into a mapping on the way there leaves no trace.
theorem descriptor_canonical (layout : Json.Layout) :
    (∀ (one other : Pipeline) (first second : Value), one.record = .ok first → other.record = .ok second →
      first.Same second → ∃ text, one.descriptor layout = .ok text ∧ other.descriptor layout = .ok text) ∧
    (∀ (pipeline : Pipeline) (text : String), (∀ job ∈ pipeline.jobs, job.timelimit.Keyed) →
      pipeline.descriptor layout = .ok text → ∃ body, text = body ++ "\n" ∧ Json.InOrder body.toList) ∧
    (∀ jobs others, List.Forall₂ Job.SameEntries jobs others → InStep WrittenAs (resolve jobs) (resolve others)) ∧
    ∀ (registry partner : Registry) (settings : Option Settings) (matrices : Option (List Matrix)),
      registry.SameEntries partner → (∀ matrix ∈ matrices.getD Matrix.defaults, matrix.parameters.Blind) →
      InStep WrittenAs (generate (some registry) matrices settings) (generate (some partner) matrices settings) := by
  refine ⟨?_, ?_, ?_, ?_⟩
  · intro one other first second written again same
    refine ⟨Json.document layout first, ?_, ?_⟩
    · rw [descriptor, written]
      rfl
    · rw [descriptor, again, Json.document_same same]
      rfl
  · intro pipeline text limits described
    obtain ⟨record, written, described⟩ := bind_ok.mp described
    cases described
    exact Json.document_inOrder (record_keyed limits written) layout
  · intro jobs others same
    exact resolve_entries same
  · intro registry partner settings matrices known blind
    exact generate_entries settings known blind

def forwards : Mapping String := ((∅ : Mapping String).insert "LANG" "C").insert "HOME" "/"
def backwards : Mapping String := ((∅ : Mapping String).insert "HOME" "/").insert "LANG" "C"

def carrier (environment : Mapping String) : Job :=
  { name := "carrier", kind := "run-only", os := .linux, arch := "amd64", timelimit := .text "0:10:00", run := [],
    environment := environment }

def cabinet (environment : Mapping String) : Registry where
  traits := (Mapping.ofList [("boot-jdk", {}), ("jtreg", {}), ("build-packages", {})]).insert "here"
    { name := "-here", os := some .linux, arch := some "amd64", environment := environment }
  base := []
  base_known := by simp

theorem cabinet_entries (same : forwards.SameEntries backwards) :
    (cabinet forwards).SameEntries (cabinet backwards) := by
  refine ⟨?_, rfl, ?_⟩
  · rw [cabinet, cabinet, Mapping.keys_insert, Mapping.keys_insert]
  · intro name trait second found again
    rw [cabinet, Mapping.get?_insert] at found again
    by_cases here : name = "here"
    · rw [if_pos here] at found again
      cases found
      cases again
      exact ⟨rfl, same, Mapping.sameEntries_self _, Mapping.sameEntries_self _⟩
    · rw [if_neg here] at found again
      rw [found] at again
      cases again
      exact trait.sameEntries_self

def carried (environment : Mapping String) : Pipeline := ⟨[carrier environment], []⟩

theorem carried_writable (environment : Mapping String) : ∀ job ∈ (carried environment).jobs, job.Writable := by
  intro job present
  rw [List.mem_singleton.mp present]
  exact ⟨by simp [AreCommands, carrier], by simp [AreCommands, carrier], .text _⟩

theorem carried_canonical : forwards.rows ≠ backwards.rows ∧
    (∃ first second text, (carried forwards).record = .ok first ∧ (carried backwards).record = .ok second ∧
      first.Same second ∧ (carried forwards).descriptor .line = .ok text ∧
      (carried backwards).descriptor .line = .ok text ∧ ∃ body, text = body ++ "\n" ∧ Json.InOrder body.toList) ∧
    InStep WrittenAs (resolve [carrier forwards]) (resolve [carrier backwards]) ∧
    InStep WrittenAs (generate (some (cabinet forwards)) (some [⟨.build, [["here"]], ∅⟩]) none)
      (generate (some (cabinet backwards)) (some [⟨.build, [["here"]], ∅⟩]) none) := by
  have swapped : forwards.SameEntries backwards := Mapping.sameEntries_swap ∅ (by decide) "C" "/"
  have jobs : List.Forall₂ Job.SameEntries (carried forwards).jobs (carried backwards).jobs :=
    .cons ⟨rfl, swapped, Mapping.sameEntries_self _, Mapping.sameEntries_self _⟩ .nil
  obtain ⟨canonical, ordered, resolved, generated⟩ := descriptor_canonical .line
  refine ⟨by decide, ?_, resolved _ _ jobs, generated _ _ none _ (cabinet_entries swapped) ?_⟩
  · obtain ⟨first, written, plain⟩ := record_plain (carried_writable forwards)
    obtain ⟨second, again, other⟩ := record_plain (carried_writable backwards)
    have sorts := record_sorts jobs rfl
    rw [written, again] at sorts
    cases sorts with
    | succeed sorts =>
        have same := Value.same_sorted plain other sorts.symm
        obtain ⟨text, one, two⟩ := canonical _ _ first second written again same
        refine ⟨first, second, text, written, again, same, one, two, ordered _ text ?_ one⟩
        intro job present
        exact Value.plain_keyed (carried_writable forwards job present).timelimit
  · intro matrix present name one other same
    rw [List.mem_singleton.mp present]
    rfl

end Pipeline
end BuildMatrix
