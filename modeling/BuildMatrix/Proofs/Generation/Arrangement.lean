import BuildMatrix.Proofs.Classes
import BuildMatrix.Proofs.Generation.Steps

namespace BuildMatrix

variable {α : Type}

def JobKind.place (kind : JobKind) : Nat := pipelineOrder.idxOf kind

-- Items in the order of their kinds, and otherwise as they were given.
structure Arranged (given laid : List (JobKind × α)) : Prop where
  all : laid.Perm given
  ordered : laid.Pairwise fun one other => one.1.place ≤ other.1.place
  steady : ∀ kind, (laid.filter fun row => row.1 == kind) = given.filter fun row => row.1 == kind

theorem byClass_arranged (given : List (JobKind × α)) :
    Arranged given (byClass JobKind.pipelineOrder Prod.fst given) where
  all := byClass_perm (by decide) fun _ _ => JobKind.mem_pipelineOrder _
  ordered := byClass_ordered (by decide) given
  steady kind := byClass_filter (by decide) (JobKind.mem_pipelineOrder kind) given

def tagged (groups : List (JobKind × List Job)) : List (JobKind × Job) :=
  groups.flatMap fun group => group.2.map fun job => (group.1, job)

theorem arrange_tagged (groups : List (JobKind × List Job)) :
    Pipeline.arrange groups = (byClass JobKind.pipelineOrder Prod.fst (tagged groups)).map Prod.snd := by
  have sorted : ∀ (kind : JobKind) (group : JobKind × List Job),
      ∀ row ∈ group.2.map fun job => (group.1, job), (row.1 == kind) = (group.1 == kind) := by
    intro kind group row present
    obtain ⟨job, _, rfl⟩ := List.mem_map.mp present
    rfl
  unfold Pipeline.arrange byClass tagged
  rw [List.map_flatMap]
  refine List.flatMap_congr fun kind _ => ?_
  rw [filter_flatMap_sort (sorted kind), List.map_flatMap]
  refine List.flatMap_congr fun group _ => ?_
  rw [List.map_map]
  exact (List.map_id _).symm

-- Two cells of which the same is to be made. In what order parameters were
-- given does not matter.

structure Parameters.Agree (one other : Parameters) : Prop where
  names : ∀ name, name ∈ one.names ↔ name ∈ other.names
  values : ∀ name, one.named.get? name = other.named.get? name

structure Cell.Agree (one other : Cell) : Prop where
  kind : one.kind = other.kind
  combination : one.combination = other.combination
  parameters : one.parameters.Agree other.parameters

theorem Cell.agree_self (cell : Cell) : cell.Agree cell := ⟨rfl, rfl, ⟨fun _ => .rfl, fun _ => rfl⟩⟩

-- Matrices that hold the same cells, kind by kind: however those of one kind
-- stand among the others, and however many there are.
def SameCells (matrices others : List Matrix) : Prop :=
  ∀ kind, List.Forall₂ Cell.Agree ((cellsOf matrices).filter fun cell => cell.kind == kind)
    ((cellsOf others).filter fun cell => cell.kind == kind)

variable {builder : Builder} {template : JobTemplate} {one other : Parameters} {matrices others : List Matrix}

theorem unaccepted_agree (agree : one.Agree other) (kind : JobKind) :
    Builder.unaccepted kind one = [] ↔ Builder.unaccepted kind other = [] := by
  simp only [Builder.unaccepted, List.filter_eq_nil_iff, agree.names]

theorem buildKind_agree (agree : one.Agree other) (machine : Machine) (kind : JobKind) :
    builder.buildKind machine template one kind = builder.buildKind machine template other kind := by
  have same : one.valueAt? = other.valueAt? := by
    funext name template
    rw [Parameters.valueAt?, Parameters.valueAt?, agree.values]
  cases kind with
  | build => simp only [Builder.buildKind, Builder.muslFlag, agree.values]
  | runOnly =>
      simp only [Builder.buildKind, Builder.runOnly, Builder.labelOf, Builder.commandsOf, agree.values, same]
  | compilerTest | jsTest | libgraalBuild | libgraalTest | muslBuild => rfl

-- Which parameters are refused may be told differently, not whether any are.
theorem build_agree (agree : one.Agree other) {kind : JobKind} {job : Job}
    (built : builder.build template kind one = .ok job) : builder.build template kind other = .ok job := by
  by_cases accepted : Builder.unaccepted kind one = []
  · rw [build_accepted accepted] at built
    rw [build_accepted ((unaccepted_agree agree kind).mp accepted)]
    simpa only [buildKind_agree agree] using built
  · rw [build_unaccepted accepted] at built
    obtain ⟨_, _, stopped⟩ := bind_ok.mp built
    cases stopped

theorem cell_agree {cell second : Cell} (agree : cell.Agree second) {job : Job} (built : cell.job builder = .ok job) :
    second.job builder = .ok job := by
  obtain ⟨kind, combination, parameters⟩ := cell
  obtain ⟨_, _, others⟩ := second
  obtain ⟨rfl, rfl, same⟩ := agree
  obtain ⟨template, composed, built⟩ := bind_ok.mp built
  exact bind_ok.mpr ⟨template, composed, build_agree same built⟩

theorem Cell.Agree.symm {cell second : Cell} (agree : cell.Agree second) : second.Agree cell :=
  ⟨agree.kind.symm, agree.combination.symm,
    ⟨fun name => (agree.parameters.names name).symm, fun name => (agree.parameters.values name).symm⟩⟩

theorem SameCells.symm (same : SameCells matrices others) : SameCells others matrices :=
  fun kind => (same kind).flip.imp fun _ _ agree => agree.symm

theorem yields_agree {cells seconds : List Cell} (agree : List.Forall₂ Cell.Agree cells seconds) {jobs : List Job}
    (yields : Yields builder cells jobs) : Yields builder seconds jobs := by
  induction agree generalizing jobs with
  | nil => exact yields
  | cons first _ ih =>
      cases yields with
      | cons built rest => exact .cons (cell_agree first built) (ih rest)

theorem SameCells.arranged (same : SameCells matrices others) :
    List.Forall₂ Cell.Agree (pipelineCells matrices) (pipelineCells others) := by
  refine List.rel_flatMap (List.forall₂_same.mpr fun _ _ => rfl) ?_
  rintro kind _ rfl
  exact same kind

namespace Pipeline

variable {registry : Option Registry} {settings : Option Settings} {pipeline : Pipeline}

theorem generate_cells : generate registry (some matrices) settings = .ok pipeline ↔
    ∃ jobs, Yields (Builder.make settings registry) (pipelineCells matrices) jobs ∧ resolve jobs = .ok pipeline := by
  constructor
  · intro generated
    obtain ⟨groups, built, resolved⟩ := bind_ok.mp generated
    exact ⟨_, jobsByKind_ok.mp ⟨groups, built, rfl⟩, resolved⟩
  · rintro ⟨jobs, yields, resolved⟩
    obtain ⟨groups, built, rfl⟩ := jobsByKind_ok.mpr yields
    exact bind_ok.mpr ⟨groups, built, resolved⟩

theorem generate_sameCells (same : SameCells matrices others)
    (generated : generate registry (some matrices) settings = .ok pipeline) :
    generate registry (some others) settings = .ok pipeline := by
  obtain ⟨jobs, yields, resolved⟩ := generate_cells.mp generated
  exact generate_cells.mpr ⟨jobs, yields_agree same.arranged yields, resolved⟩

def ReadAs (given : Value × List Job) (read : JobKind × List Job) : Prop :=
  JobKind.ofValue given.1 = .ok read.1 ∧ read.2 = given.2

theorem assemble_read {given : List (Value × List Job)}
    (known : ∀ group ∈ given, ∃ kind, JobKind.ofValue group.1 = .ok kind) :
    ∃ read, List.Forall₂ ReadAs given read ∧ assemble given = resolve (arrange read) := by
  have each : ∀ group ∈ given, ∃ read,
      (do return (← JobKind.ofValue group.1, group.2) : Except Failure (JobKind × List Job)) = .ok read := by
    intro group present
    obtain ⟨kind, called⟩ := known group present
    exact ⟨(kind, group.2), bind_ok.mpr ⟨kind, called, rfl⟩⟩
  obtain ⟨read, ran⟩ := mapM_succeeds each
  refine ⟨read, (mapM_ok.mp ran).imp ?_, ?_⟩
  · intro group row reads
    obtain ⟨kind, called, equal⟩ := bind_ok.mp reads
    cases equal
    exact ⟨called, rfl⟩
  · unfold assemble
    rw [ran]
    rfl

-- Jobs are resolved in the order of the kinds they are given under, and those of
-- one kind in the order they are given in, under however many keys that is. So
-- matrices of different kinds may change places, and one matrix may be cut in
-- two: the pipeline stays what it is, and so does its descriptor.
theorem generate_arranged :
    (∀ given : List (Value × List Job), (∀ group ∈ given, ∃ kind, JobKind.ofValue group.1 = .ok kind) →
      ∃ read laid, List.Forall₂ ReadAs given read ∧ Arranged (tagged read) laid ∧
        assemble given = resolve (laid.map Prod.snd)) ∧
    ∀ (registry : Option Registry) (settings : Option Settings) (matrices others : List Matrix),
      SameCells matrices others →
      ((∃ failure, generate registry (some matrices) settings = .error failure) ∧
        ∃ failure, generate registry (some others) settings = .error failure) ∨
      ∃ pipeline, generate registry (some matrices) settings = .ok pipeline ∧
        generate registry (some others) settings = .ok pipeline ∧
        ∀ layout, ∃ text, pipeline.descriptor layout = .ok text := by
  refine ⟨?_, ?_⟩
  · intro given known
    obtain ⟨read, reads, assembled⟩ := assemble_read known
    exact ⟨read, _, reads, byClass_arranged (tagged read), by rw [assembled, arrange_tagged]⟩
  · intro registry settings matrices others same
    cases first : generate registry (some matrices) settings with
    | ok pipeline => exact .inr ⟨pipeline, rfl, generate_sameCells same first, generate_written first⟩
    | error failure =>
        cases second : generate registry (some others) settings with
        | error other => exact .inl ⟨⟨failure, rfl⟩, other, rfl⟩
        | ok pipeline =>
            rw [generate_sameCells same.symm second] at first
            cases first

def drawer : List (Value × List Job) := [
  (.text "run-only", [.declaring "probe" [] ["jdk"], .declaring "manual" [] []]),
  (.text "build", [.declaring "jdk" ["jdk"] []]),
  (.text "run-only", [.declaring "late" [] ["jdk"]])]

def trialCut : List Matrix := [
  ⟨.build, [["linux", "amd64"]], ∅⟩,
  ⟨.muslBuild, [["linux-musl", "amd64-musl"]], ∅⟩,
  ⟨.build, [["darwin", "aarch64"]], ∅⟩,
  ⟨.compilerTest, [["darwin", "aarch64"]], ∅⟩,
  ⟨.libgraalBuild, [["linux", "amd64"]], ∅⟩,
  ⟨.libgraalTest, [["linux", "amd64"]], ∅⟩]

theorem trial_cut : SameCells trial trialCut := by
  have agree : ∀ cells : List Cell, List.Forall₂ Cell.Agree cells cells :=
    fun cells => List.forall₂_same.mpr fun cell _ => cell.agree_self
  intro kind
  cases kind with
  | _ => exact agree _

theorem drawer_arranged : (∀ group ∈ drawer, ∃ kind, JobKind.ofValue group.1 = .ok kind) ∧
    (∃ read laid, List.Forall₂ ReadAs drawer read ∧ Arranged (tagged read) laid ∧
      assemble drawer = resolve (laid.map Prod.snd)) ∧
    assemble drawer = resolve [.declaring "jdk" ["jdk"] [], .declaring "probe" [] ["jdk"], .declaring "manual" [] [],
      .declaring "late" [] ["jdk"]] ∧
    SameCells trial trialCut ∧ ∃ pipeline, generate none (some trial) none = .ok pipeline ∧
      generate none (some trialCut) none = .ok pipeline := by
  have known : ∀ group ∈ drawer, ∃ kind, JobKind.ofValue group.1 = .ok kind := by
    simp only [drawer, List.forall_mem_cons]
    exact ⟨⟨.runOnly, rfl⟩, ⟨.build, rfl⟩, ⟨.runOnly, rfl⟩, by simp⟩
  refine ⟨known, generate_arranged.1 drawer known, rfl, trial_cut, ?_⟩
  obtain ⟨groups, _, generated⟩ := trial_generates
  have ends := generate_arranged.2 none none trial trialCut trial_cut
  rcases ends with ⟨⟨failure, failed⟩, _⟩ | ⟨pipeline, one, other, _⟩
  · rw [generated] at failed
    cases failed
  · exact ⟨pipeline, one, other⟩

end Pipeline
end BuildMatrix
