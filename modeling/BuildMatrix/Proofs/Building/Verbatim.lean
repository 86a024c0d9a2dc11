import BuildMatrix.Proofs.Building.Faults
import BuildMatrix.Proofs.Generation.Steps

namespace BuildMatrix

-- The places of a value at which a command has to stand, each before what it holds and
-- all from the left. A text inside a list is an argument and no such place.
mutual
def Value.places : Value → List Value
  | .list items => .list items :: Value.placesIn items
  | value => [value]
def Value.placesIn : List Value → List Value
  | [] => []
  | .text _ :: rest => Value.placesIn rest
  | item :: rest => Value.places item ++ Value.placesIn rest
end

inductive Blames (job : String) : Value → Report → Prop where
  | shape {place : Value} : (∀ items, place ≠ .list items) → Blames job place {
      kind := .configuration
      message := "a command must be a list of arguments"
      details := [("job", job), ("got", place.literal)] }
  | empty : Blames job (.list []) {
      kind := .configuration
      message := "a command must not be empty"
      details := [("job", job)] }

def FirstBlamed (job : String) (places : List Value) (report : Report) : Prop :=
  ∃ before place after, places = before ++ place :: after ∧ (∀ earlier ∈ before, ∀ other, ¬Blames job earlier other) ∧
    Blames job place report

section
variable {job : String} {value item : Value} {before after items : List Value} {failure : Failure} {report : Report}

theorem placesIn_cons (other : ∀ string, item ≠ .text string) (rest : List Value) :
    Value.placesIn (item :: rest) = item.places ++ Value.placesIn rest := by
  rw [Value.placesIn]
  exact fun string equal => other string equal

theorem placesIn_append (before after : List Value) :
    Value.placesIn (before ++ after) = Value.placesIn before ++ Value.placesIn after := by
  induction before with
  | nil => rfl
  | cons item rest ih =>
      rcases item.text_or_other with ⟨string, rfl⟩ | other
      · rw [List.cons_append, Value.placesIn, Value.placesIn, ih]
      · rw [List.cons_append, placesIn_cons other, placesIn_cons other, ih, List.append_assoc]

theorem mem_placesIn {place : Value} : place ∈ Value.placesIn items ↔
    ∃ item ∈ items, (∀ string, item ≠ .text string) ∧ place ∈ item.places := by
  induction items with
  | nil => simp [Value.placesIn]
  | cons item rest ih =>
      rcases item.text_or_other with ⟨string, rfl⟩ | other
      · simp [Value.placesIn, ih]
      · simp [placesIn_cons other, ih, other]

theorem text_place {string : String} (present : .text string ∈ value.places) : value = .text string := by
  have inside : (∀ value : Value, .text string ∈ value.places → value = .text string) ∧
      ∀ items, .text string ∉ Value.placesIn items := by
    refine Value.places.mutual_induct _ _ ?list ?other ?nil ?text ?item
    case list =>
      intro items ih present
      rw [Value.places] at present
      rcases List.mem_cons.mp present with equal | within
      · cases equal
      · exact absurd within ih
    case other =>
      intro value notList present
      rw [Value.places] at present
      · exact (List.mem_singleton.mp present).symm
      · exact notList
    case nil => exact List.not_mem_nil
    case text =>
      intro other rest ih
      rwa [Value.placesIn]
    case item =>
      intro item rest notText first ih present
      rw [placesIn_cons notText] at present
      rcases List.mem_append.mp present with here | later
      · exact notText string (first here)
      · exact ih later
  exact inside.1 value present

theorem filled_blameless (filled : items ≠ []) : ¬Blames job (.list items) report := by
  rintro (⟨other⟩ | _)
  · exact other items rfl
  · exact filled rfl

theorem wellFormed_blameless (formed : value.WellFormed) : ∀ place ∈ value.places, ∀ report, ¬Blames job place report := by
  induction formed with
  | @list items filled _ ih =>
      rw [Value.places]
      refine List.forall_mem_cons.mpr ⟨fun _ => filled_blameless filled, fun place present => ?_⟩
      obtain ⟨item, held, other, within⟩ := mem_placesIn.mp present
      exact ih item held other place within

theorem arguments_blameless (fitting : ∀ item ∈ items, item.IsArgument) :
    ∀ place ∈ Value.placesIn items, ∀ report, ¬Blames job place report := by
  intro place present
  obtain ⟨item, held, other, within⟩ := mem_placesIn.mp present
  exact wellFormed_blameless (fitting item held other) place within

theorem fault_first (fault : CommandFault job value failure) : FirstBlamed job value.places failure.report := by
  induction fault with
  | @shape value other =>
      have alone : value.places = [] ++ value :: [] := by
        rw [Value.places]
        · rfl
        · exact other
      exact ⟨[], value, [], alone, by simp, .shape other⟩
  | empty => exact ⟨[], .list [], [], rfl, by simp, .empty⟩
  | @inside before after item failure earlier other _ ih =>
      obtain ⟨front, place, back, split, blameless, blamed⟩ := ih
      refine ⟨.list (before ++ item :: after) :: (Value.placesIn before ++ front), place,
        back ++ Value.placesIn after, ?_, ?_, blamed⟩
      · rw [Value.places, placesIn_append, placesIn_cons other, split]
        simp
      · refine List.forall_mem_cons.mpr ⟨fun _ => filled_blameless (by simp), ?_⟩
        exact List.forall_mem_append.mpr ⟨arguments_blameless earlier, blameless⟩

end

namespace Command

variable {job : String} {value : Value} {command : Command}

theorem arguments_verbatim (job : String) :
    (∀ value argument, Command.argument job value = .ok argument → argumentValue argument = value) ∧
    ∀ items arguments, Command.arguments job items = .ok arguments → argumentValues arguments = items := by
  refine argument.mutual_induct _ _ ?text ?list ?other ?nil ?cons
  case text =>
    intro string argument read
    cases read
    rfl
  case list =>
    intro items ih argument read
    rw [Command.argument] at read
    obtain ⟨inner, ran, read⟩ := bind_ok.mp read
    split at read
    · cases read
    · cases read
      rw [argumentValue, ih inner ran]
  case other =>
    intro value notText notList argument read
    rw [Command.argument] at read
    · cases read
    · exact notText
    · exact notList
  case nil =>
    intro arguments read
    cases read
    rfl
  case cons =>
    intro item rest first others arguments read
    rw [Command.arguments] at read
    obtain ⟨one, here, read⟩ := bind_ok.mp read
    obtain ⟨more, later, read⟩ := bind_ok.mp read
    cases read
    rw [argumentValues, first one here, others more later]

theorem ofValue_verbatim (read : ofValue job value = .ok command) : command.toValue = value := by
  cases value with
  | list items =>
      rw [ofValue] at read
      obtain ⟨inner, ran, read⟩ := bind_ok.mp read
      split at read
      · cases read
      · cases read
        rw [toValue, (arguments_verbatim job).2 items _ ran]
  | null | bool flag | int number | real number | text string | table rows => cases read

theorem toValue_walked (command : Command) : Value.walked command.toValue = .ok command.toValue := by
  rw [toValue, Value.walked, arguments_walked]
  rfl

end Command

variable {job : Job}

theorem Job.record_run (scripted : job.Scripted) :
    ∃ record, job.record = .ok record ∧ record.field? "run" = some (.list job.run) := by
  obtain ⟨record, written⟩ := Job.record_scripted scripted
  refine ⟨record, written, ?_⟩
  rw [Job.record, scripted.run.walked, scripted.setup.walked] at written
  cases written
  rfl

namespace Builder

variable {builder : Builder} {template composed : JobTemplate} {parameters : Parameters} {items : List Value}

theorem commands_verbatim {name : String} {steps : List Command} (told : given parameters composed = .list items)
    (read : commandsOf composed name parameters = .ok steps) : steps.map Command.toValue = items := by
  rw [commandsOf_given, told] at read
  split at read
  · have same : steps.map Command.toValue = items.map id :=
      related_map (fun _ _ ran => Command.ofValue_verbatim ran) (mapM_ok.mp read)
    rw [same, List.map_id]
  · cases read

theorem runOnly_verbatim (built : builder.build template .runOnly parameters = .ok job)
    (extended : template.extend [requireLabsjdk template] = .ok composed)
    (told : given parameters composed = .list items) : job.run = template.run.map Command.toValue ++ items := by
  obtain ⟨machine, _, made⟩ := build_kind built
  obtain ⟨label, _, made⟩ := bind_ok.mp made
  obtain ⟨also, again, made⟩ := bind_ok.mp made
  obtain ⟨steps, read, made⟩ := bind_ok.mp made
  cases extended.symm.trans again
  cases made
  have ran : composed.run = template.run := by
    rw [(JobTemplate.extend_form extended).run]
    exact List.append_nil _
  rw [Builder.job, ran, List.map_append, commands_verbatim told read]

end Builder

namespace Command

-- A command is taken exactly where every list in it holds something and everything else
-- in it is text, and it comes back as it was given. The first place from the left that is
-- no command is told. Commands that a job is handed stand in its record behind those of
-- its template, as they were given.
theorem ofValue_exact (name : String) (value : Value) :
    ((∃ command, ofValue name value = .ok command) ↔ value.WellFormed) ∧
    (∀ command, ofValue name value = .ok command → command.toValue = value ∧
      Value.walked command.toValue = .ok value ∧ ofValue name command.toValue = .ok command) ∧
    (∀ failure, ofValue name value = .error failure → FirstBlamed name value.places failure.report) ∧
    (∀ string, .text string ∈ value.places → value = .text string) ∧
    ∀ (builder : Builder) (template composed : JobTemplate) (parameters : Parameters) (items : List Value) (job : Job),
      builder.build template .runOnly parameters = .ok job →
      template.extend [Builder.requireLabsjdk template] = .ok composed →
      Builder.given parameters composed = .list items →
      ∃ record, job.record = .ok record ∧
        record.field? "run" = some (.list (template.run.map Command.toValue ++ items)) := by
  refine ⟨reads_iff, ?_, fun failure refused => fault_first (refused_iff.mp refused), fun _ => text_place, ?_⟩
  · intro command read
    have same := ofValue_verbatim read
    refine ⟨same, ?_, ?_⟩
    · rw [toValue_walked, same]
    · rw [same, read]
  · intro builder template composed parameters items job built extended told
    obtain ⟨machine, _, made⟩ := build_kind built
    obtain ⟨record, written, ran⟩ := Job.record_run (buildKind_scripted made)
    exact ⟨record, written, by rw [ran, Builder.runOnly_verbatim built extended told]⟩

def nested : Value := .list [.text "echo", .list [.text "cat", .list [.text "which", .text "mx"]], .text ""]

def broken : Value := .list [.text "echo", .list [.text "cat", .list []], .int 7]

def preparedTemplate : JobTemplate := { Builder.smokeTemplate with run := [["mx", "build"]] }

theorem nested_verbatim : nested.WellFormed ∧
    (∃ command, ofValue "smoke" nested = .ok command ∧ command.toValue = nested ∧
      ofValue "smoke" command.toValue = .ok command) ∧
    (∃ failure, ofValue "smoke" broken = .error failure ∧ FirstBlamed "smoke" broken.places failure.report ∧
      failure.report.message = "a command must not be empty") ∧
    ∃ job record, (Builder.make none none).build preparedTemplate .runOnly (Builder.smoke (.fixed (.list [nested]))) =
        .ok job ∧ job.record = .ok record ∧
      record.field? "run" = some (.list [.list [.text "mx", .text "build"], nested]) := by
  obtain ⟨reads, verbatim, _, _, runs⟩ := ofValue_exact "smoke" nested
  obtain ⟨_, _, refuses, _⟩ := ofValue_exact "smoke" broken
  have accepted : (ofValue "smoke" nested).isOk = true := rfl
  obtain ⟨command, read⟩ := isOk_value accepted
  have succeeds : ((Builder.make none none).build preparedTemplate .runOnly
      (Builder.smoke (.fixed (.list [nested])))).isOk = true := rfl
  obtain ⟨job, built⟩ := isOk_value succeeds
  have composes : (preparedTemplate.extend [Builder.requireLabsjdk preparedTemplate]).isOk = true := rfl
  obtain ⟨composed, extended⟩ := isOk_value composes
  obtain ⟨record, written, ran⟩ := runs (Builder.make none none) preparedTemplate composed _ [nested] job built extended rfl
  obtain ⟨same, _, again⟩ := verbatim command read
  exact ⟨reads.mp ⟨command, read⟩, ⟨command, read, same, again⟩,
    ⟨.commandEmpty "smoke", rfl, refuses _ rfl, rfl⟩, job, record, built, written, ran⟩

end Command
end BuildMatrix
