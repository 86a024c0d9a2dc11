import BuildMatrix.Proofs.Generation.Origins

namespace BuildMatrix

def Refuses {α : Type} (ways : Failure → Prop) (result : Except Failure α) : Prop :=
  ∀ failure, result = .error failure → ways failure

section
variable {α β : Type} {ways : Failure → Prop}

theorem refuses_ok (value : α) : Refuses ways (.ok value) := by
  intro failure failed
  cases failed

theorem refuses_error {failure : Failure} (way : ways failure) : Refuses ways (.error failure : Except Failure α) := by
  intro other failed
  cases failed
  exact way

theorem refuses_bind {first : Except Failure α} {next : α → Except Failure β} (one : Refuses ways first)
    (other : ∀ value, Refuses ways (next value)) : Refuses ways (first >>= next) := by
  intro failure failed
  rcases bind_error.mp failed with stopped | ⟨value, _, later⟩
  · exact one failure stopped
  · exact other value failure later

theorem refuses_mapM {step : α → Except Failure β} (each : ∀ item, Refuses ways (step item)) (items : List α) :
    Refuses ways (items.mapM step) := by
  intro failure failed
  obtain ⟨_, item, _, _, _, stopped⟩ := mapM_error.mp failed
  exact each item failure stopped

theorem refuses_foldlM {step : β → α → Except Failure β} (each : ∀ state item, Refuses ways (step state item))
    (items : List α) (state : β) : Refuses ways (items.foldlM step state) := by
  induction items generalizing state with
  | nil => exact refuses_ok state
  | cons item rest ih =>
      rw [List.foldlM_cons]
      exact refuses_bind (each state item) ih

end

-- The ways in which building jobs can fail. None of them is a verdict on the
-- artifacts that jobs exchange.
def OfBuilding (failure : Failure) : Prop :=
  failure.report.kind ∈ [FailureKind.configuration, .compositionConflict, .wrongType]

namespace Value

theorem isBefore_refuses (first second : Value) : Refuses OfBuilding (first.isBefore second) := by
  unfold isBefore
  split
  · exact refuses_ok _
  · exact refuses_error (by simp [OfBuilding, Failure.report])

theorem goingOn_refuses (down : Bool) (last : Value) (values : List Value) :
    Refuses OfBuilding (goingOn down last values) := by
  induction values generalizing last with
  | nil => exact refuses_ok _
  | cons value rest ih =>
      refine refuses_bind (isBefore_refuses value last) ?_
      intro before
      dsimp only
      split
      · exact refuses_bind (ih value) fun _ => refuses_ok _
      · exact refuses_ok _

theorem insertSorted_refuses (value : Value) (values : List Value) :
    Refuses OfBuilding (insertSorted value values) := by
  fun_induction insertSorted value values with
  | case1 values found => exact refuses_ok _
  | case2 values middle above found below lower upper =>
      refine refuses_bind (isBefore_refuses value middle) ?_
      intro before
      cases before with
      | true => exact refuses_bind lower fun _ => refuses_ok _
      | false => exact refuses_bind upper fun _ => refuses_ok _

theorem sorted_refuses (values : List Value) : Refuses OfBuilding (sorted values) := by
  unfold sorted
  split
  · exact refuses_ok _
  · exact refuses_ok _
  · refine refuses_bind (isBefore_refuses _ _) fun down => refuses_bind (goingOn_refuses _ _ _) fun split => ?_
    exact refuses_foldlM (fun values value => insertSorted_refuses value values) _ _

theorem items_refuses (value : Value) : Refuses OfBuilding value.items := by
  unfold items
  split
  · exact refuses_ok _
  · exact refuses_error (by simp [OfBuilding, Failure.report])

end Value

namespace Command

theorem filled_refuses {α : Type} (job : String) {read : Except Failure (List Argument)}
    (given : Refuses OfBuilding read) (made : List Argument → α) :
    Refuses OfBuilding (do
      let read ← read
      if read.isEmpty then throw (.commandEmpty job)
      return made read) := by
  refine refuses_bind given ?_
  intro read
  cases read with
  | nil => exact refuses_error (by simp [OfBuilding, Failure.report])
  | cons => exact refuses_ok _

theorem reading_refuses (job : String) : (∀ given, Refuses OfBuilding (argument job given)) ∧
    ∀ items, Refuses OfBuilding (arguments job items) := by
  refine argument.mutual_induct _ _ ?text ?list ?other ?nil ?cons
  case text =>
    intro string
    rw [argument]
    exact refuses_ok _
  case list =>
    intro items ih
    rw [argument]
    exact filled_refuses job ih Argument.output
  case other =>
    intro value notText notList
    rw [argument]
    · exact refuses_error (by simp [OfBuilding, Failure.report])
    · exact notText
    · exact notList
  case nil => exact refuses_ok _
  case cons =>
    intro item rest first others
    rw [arguments]
    exact refuses_bind first fun _ => refuses_bind others fun _ => refuses_ok _

theorem ofValue_refuses (job : String) (given : Value) : Refuses OfBuilding (ofValue job given) := by
  unfold ofValue
  split
  · exact filled_refuses job ((reading_refuses job).2 _) id
  · exact refuses_error (by simp [OfBuilding, Failure.report])

end Command

theorem get_refuses (registry : Registry) (name : String) : Refuses OfBuilding (registry.get name) := by
  unfold Registry.get
  split
  · exact refuses_ok _
  · exact refuses_error (by simp [OfBuilding, Registry.unknown, Failure.report])

theorem getAll_refuses (registry : Registry) (names : List String) : Refuses OfBuilding (registry.getAll names) :=
  refuses_mapM (get_refuses registry) names

theorem settleField_refuses {α : Type} [DecidableEq α] (template : JobTemplate) (trait : Trait)
    (field : SingularField) (word : α → String) (held new : Option α) (owners : Mapping String) :
    Refuses OfBuilding (template.settleField trait field word held new owners) := by
  unfold JobTemplate.settleField
  split
  · exact refuses_ok _
  · exact refuses_ok _
  · exact refuses_error (by simp [OfBuilding, Failure.report])

theorem merge_refuses (template : JobTemplate) (trait : Trait) : Refuses OfBuilding (template.merge trait) :=
  refuses_bind (settleField_refuses _ _ _ _ _ _ _) fun _ =>
    refuses_bind (settleField_refuses _ _ _ _ _ _ _) fun _ => refuses_ok _

theorem extend_refuses (template : JobTemplate) (traits : List Trait) :
    Refuses OfBuilding (template.extend traits) := refuses_foldlM merge_refuses traits template

theorem template_refuses (builder : Builder) (cell : Cell) : Refuses OfBuilding (cell.template builder) :=
  refuses_bind (getAll_refuses _ _) fun _ => extend_refuses _ _

namespace Builder

theorem machineOf_refuses (kind : JobKind) (template : JobTemplate) :
    Refuses OfBuilding (machineOf kind template) := by
  unfold machineOf
  split
  · exact refuses_error (by simp [OfBuilding, Failure.report])
  · exact refuses_error (by simp [OfBuilding, Failure.report])
  · exact refuses_ok _

theorem labelOf_refuses (template : JobTemplate) (parameters : Parameters) :
    Refuses OfBuilding (labelOf template parameters) := by
  unfold labelOf
  split
  · split
    · exact refuses_error (by simp [OfBuilding, Failure.report])
    · exact refuses_ok _
  · exact refuses_error (by simp [OfBuilding, Failure.report])

theorem commandsOf_refuses (composed : JobTemplate) (name : String) (parameters : Parameters) :
    Refuses OfBuilding (commandsOf composed name parameters) := by
  unfold commandsOf
  dsimp only
  split
  · exact refuses_error (by simp [OfBuilding, Failure.report])
  · exact refuses_bind (Value.items_refuses _) fun _ => refuses_mapM (Command.ofValue_refuses name) _

theorem buildKind_refuses (builder : Builder) (machine : Machine) (template : JobTemplate)
    (parameters : Parameters) (kind : JobKind) :
    Refuses OfBuilding (builder.buildKind machine template parameters kind) := by
  cases kind with
  | build | muslBuild =>
      exact refuses_bind (getAll_refuses _ _) fun _ => refuses_bind (extend_refuses _ _) fun _ => refuses_ok _
  | compilerTest | jsTest | libgraalBuild | libgraalTest =>
      exact refuses_bind (extend_refuses _ _) fun _ => refuses_ok _
  | runOnly =>
      refine refuses_bind (labelOf_refuses _ _) fun _ => refuses_bind (extend_refuses _ _) fun _ => ?_
      exact refuses_bind (commandsOf_refuses _ _ _) fun _ => refuses_ok _

theorem build_refuses (builder : Builder) (template : JobTemplate) (kind : JobKind) (parameters : Parameters) :
    Refuses OfBuilding (builder.build template kind parameters) := by
  by_cases accepted : unaccepted kind parameters = []
  · rw [build_accepted accepted]
    exact refuses_bind (machineOf_refuses _ _) fun _ => buildKind_refuses _ _ _ _ _
  · rw [build_unaccepted accepted]
    exact refuses_bind (Value.sorted_refuses _) fun _ => refuses_error (by simp [OfBuilding, Failure.report])

end Builder

theorem jobsByKind_refuses (builder : Builder) (matrices : List Matrix) :
    Refuses OfBuilding (jobsByKind builder matrices) := by
  refine refuses_bind (refuses_mapM (fun matrix => ?_) matrices) fun _ => refuses_ok _
  refine refuses_bind (refuses_bind ?_ fun templates => ?_) fun _ => refuses_ok _
  · exact refuses_mapM (fun combination => template_refuses builder ⟨matrix.kind, combination, matrix.parameters⟩) _
  · exact refuses_mapM (fun template => builder.build_refuses template _ _) templates

end BuildMatrix
