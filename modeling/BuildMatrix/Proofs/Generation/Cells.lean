import BuildMatrix.Pipeline.Assemble
import BuildMatrix.Proofs.Classes
import BuildMatrix.Proofs.Outcomes

namespace BuildMatrix

structure Cell where
  kind : JobKind
  combination : Combination
  parameters : Parameters

def Matrix.cells (matrix : Matrix) : List Cell :=
  matrix.combinations.map fun combination => ⟨matrix.kind, combination, matrix.parameters⟩

def cellsOf (matrices : List Matrix) : List Cell := matrices.flatMap Matrix.cells

def pipelineCells (matrices : List Matrix) : List Cell :=
  JobKind.pipelineOrder.flatMap fun kind => (cellsOf matrices).filter fun cell => cell.kind == kind

namespace Cell

def template (builder : Builder) (cell : Cell) : Except Failure JobTemplate :=
  cell.combination.template (Registry.orCatalogue (some builder.registry))

def job (builder : Builder) (cell : Cell) : Except Failure Job := do
  let template ← cell.template builder
  builder.build template cell.kind cell.parameters

end Cell

variable {builder : Builder} {matrix : Matrix} {matrices : List Matrix}

-- The jobs stand to the cells as a matrix would have built them one by one.
def Yields (builder : Builder) (cells : List Cell) (jobs : List Job) : Prop :=
  List.Forall₂ (fun cell job => Cell.job builder cell = .ok job) cells jobs

theorem yields_mapM {cells : List Cell} {jobs : List Job} :
    cells.mapM (Cell.job builder) = .ok jobs ↔ Yields builder cells jobs := mapM_ok

theorem mem_pipelineCells {cell : Cell} : cell ∈ pipelineCells matrices ↔ cell ∈ cellsOf matrices := by
  simp only [pipelineCells, List.mem_flatMap, List.mem_filter, beq_iff_eq]
  constructor
  · rintro ⟨_, _, present, _⟩
    exact present
  · intro present
    exact ⟨cell.kind, JobKind.mem_pipelineOrder _, present, rfl⟩

theorem matrix_jobs {jobs : List Job} :
    matrix.jobs builder = .ok jobs ↔ Yields builder matrix.cells jobs := by
  unfold Matrix.jobs Yields Matrix.cells Matrix.templates Matrix.templatesIn
  rw [bind_ok, List.forall₂_map_left_iff]
  simp only [mapM_ok]
  generalize matrix.combinations = combinations
  constructor
  · rintro ⟨templates, composed, built⟩
    induction composed generalizing jobs with
    | nil =>
        cases built
        exact .nil
    | cons first _ ih =>
        cases built with
        | cons made others => exact .cons (bind_ok.mpr ⟨_, first, made⟩) (ih others)
  · intro each
    induction each with
    | nil => exact ⟨[], .nil, .nil⟩
    | cons first _ ih =>
        obtain ⟨template, composed, made⟩ := bind_ok.mp first
        obtain ⟨templates, before, others⟩ := ih
        exact ⟨template :: templates, .cons composed before, .cons made others⟩

theorem jobsInTurn_ok {groups : List (JobKind × List Job)} : jobsInTurn builder matrices = .ok groups ↔
    List.Forall₂ (fun matrix group => group.1 = matrix.kind ∧ Yields builder matrix.cells group.2)
      matrices groups := by
  unfold jobsInTurn
  rw [mapM_ok]
  have each : ∀ (matrix : Matrix) (group : JobKind × List Job),
      (do return (matrix.kind, ← matrix.jobs builder) : Except Failure (JobKind × List Job)) = .ok group ↔
        group.1 = matrix.kind ∧ Yields builder matrix.cells group.2 := by
    intro matrix group
    rw [bind_ok]
    constructor
    · rintro ⟨jobs, built, equal⟩
      cases equal
      exact ⟨rfl, matrix_jobs.mp built⟩
    · rintro ⟨named, built⟩
      refine ⟨group.2, matrix_jobs.mpr built, ?_⟩
      rw [← named]
      rfl
  simp only [each]

theorem groupByKind_members (groups : List (JobKind × List Job)) (kind : JobKind) :
    ((groupByKind groups).filter fun group => group.1 == kind).flatMap Prod.snd =
      (groups.filter fun group => group.1 == kind).flatMap Prod.snd := by
  unfold groupByKind
  rw [List.filter_map]
  have only : ((groups.map Prod.fst).eraseDups.filter fun other => other == kind) =
      if kind ∈ groups.map Prod.fst then [kind] else [] := by
    rw [List.filter_beq]
    split
    · rename_i present
      rw [List.count_eq_one_of_mem (eraseDups_nodup _) (List.mem_eraseDups.mpr present)]
      rfl
    · rename_i absent
      rw [List.count_eq_zero_of_not_mem (fun present => absent (List.mem_eraseDups.mp present))]
      rfl
  change (List.map _ ((groups.map Prod.fst).eraseDups.filter fun other => other == kind)).flatMap Prod.snd = _
  rw [only]
  split
  · simp
  · rename_i absent
    have none : (groups.filter fun group => group.1 == kind) = [] := by
      rw [List.filter_eq_nil_iff]
      intro group present same
      exact absent (List.mem_map.mpr ⟨group, present, by simpa using same⟩)
    rw [none]
    rfl

theorem arrange_groupByKind (groups : List (JobKind × List Job)) :
    Pipeline.arrange (groupByKind groups) = Pipeline.arrange groups := by
  simp only [Pipeline.arrange, groupByKind_members]

theorem cells_kind {cell : Cell} (present : cell ∈ matrix.cells) : cell.kind = matrix.kind := by
  obtain ⟨_, _, rfl⟩ := List.mem_map.mp present
  rfl

theorem arranged_cells {groups : List (JobKind × List Job)} (built : jobsInTurn builder matrices = .ok groups) :
    Yields builder (pipelineCells matrices) (Pipeline.arrange groups) := by
  refine List.rel_flatMap (List.forall₂_same.mpr fun _ _ => rfl) ?_
  rintro kind _ rfl
  have sorted : ∀ matrix : Matrix, ∀ cell ∈ matrix.cells, (cell.kind == kind) = (matrix.kind == kind) :=
    fun matrix cell held => by rw [cells_kind held]
  dsimp only [cellsOf]
  rw [filter_flatMap_sort sorted]
  refine List.rel_flatMap (List.rel_filter ?_ (jobsInTurn_ok.mp built)) fun _ _ belong => belong.2
  intro matrix group belong
  dsimp only
  rw [belong.1]

theorem jobsByKind_ok {jobs : List Job} :
    (∃ groups, jobsByKind builder matrices = .ok groups ∧ Pipeline.arrange groups = jobs) ↔
      Yields builder (pipelineCells matrices) jobs := by
  have forwards : ∀ groups, jobsByKind builder matrices = .ok groups →
      Yields builder (pipelineCells matrices) (Pipeline.arrange groups) := by
    intro groups built
    obtain ⟨turns, ran, equal⟩ := bind_ok.mp built
    cases equal
    rw [arrange_groupByKind]
    exact arranged_cells ran
  constructor
  · rintro ⟨groups, built, rfl⟩
    exact forwards groups built
  · intro yields
    have each : ∀ matrix ∈ matrices, ∃ group,
        (do return (matrix.kind, ← matrix.jobs builder) : Except Failure (JobKind × List Job)) = .ok group := by
      intro matrix present
      have all : ∀ cell ∈ matrix.cells, ∃ job, cell.job builder = .ok job := by
        intro cell held
        have listed := mem_pipelineCells.mpr (List.mem_flatMap.mpr ⟨matrix, present, held⟩)
        obtain ⟨job, _, built⟩ := related_left yields listed
        exact ⟨job, built⟩
      obtain ⟨made, ran⟩ := mapM_succeeds all
      exact ⟨(matrix.kind, made), bind_ok.mpr ⟨made, matrix_jobs.mpr (yields_mapM.mp ran), rfl⟩⟩
    obtain ⟨turns, ran⟩ := mapM_succeeds each
    refine ⟨groupByKind turns, bind_ok.mpr ⟨turns, ran, rfl⟩, ?_⟩
    have arranged := yields_mapM.mpr (arrange_groupByKind turns ▸ arranged_cells ran)
    rw [yields_mapM.mpr yields] at arranged
    exact (Except.ok.inj arranged).symm

namespace Pipeline

theorem generate_turns (registry : Option Registry) (matrices : Option (List Matrix)) (settings : Option Settings) :
    generate registry matrices settings =
      jobsInTurn (Builder.make settings registry) (matrices.getD Matrix.defaults) >>= fun groups =>
        resolve (arrange groups) := by
  unfold generate jobsByKind
  dsimp only
  cases jobsInTurn (Builder.make settings registry) (matrices.getD Matrix.defaults) with
  | error failure => rfl
  | ok groups => exact congrArg resolve (arrange_groupByKind groups)

end Pipeline

section
variable {related : Job → Job → Prop} {second : Builder}

def SameGroup (related : Job → Job → Prop) (group partner : JobKind × List Job) : Prop :=
  partner.1 = group.1 ∧ List.Forall₂ related group.2 partner.2

theorem inTurn_inStep (matrices : List Matrix) (each : ∀ matrix ∈ matrices,
    InStep (List.Forall₂ related) (matrix.jobs builder) (matrix.jobs second)) :
    InStep (List.Forall₂ (SameGroup related)) (jobsInTurn builder matrices) (jobsInTurn second matrices) := by
  have belong : List.Forall₂ (fun matrix partner => partner = matrix ∧ matrix ∈ matrices) matrices matrices :=
    List.forall₂_same.mpr fun _ held => ⟨rfl, held⟩
  refine inStep_each ?_ belong
  rintro matrix _ ⟨rfl, held⟩
  exact inStep_bind (each _ held) fun _ _ same => .succeed ⟨rfl, same⟩

theorem arrange_same {groups partners : List (JobKind × List Job)}
    (same : List.Forall₂ (SameGroup related) groups partners) :
    List.Forall₂ related (Pipeline.arrange groups) (Pipeline.arrange partners) := by
  refine List.rel_flatMap (List.forall₂_same.mpr fun _ _ => rfl) ?_
  rintro kind _ rfl
  refine List.rel_flatMap (List.rel_filter ?_ same) fun _ _ belong => belong.2
  intro group partner belong
  dsimp only
  rw [belong.1]

end

end BuildMatrix
