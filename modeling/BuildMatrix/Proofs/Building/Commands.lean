import BuildMatrix.Command
import BuildMatrix.Proofs.Outcomes

namespace BuildMatrix

inductive Value.WellFormed : Value → Prop where
  | list {items : List Value} : items ≠ [] → (∀ item ∈ items, (∀ string, item ≠ .text string) → WellFormed item) →
      WellFormed (.list items)

def Value.IsArgument (value : Value) : Prop := (∀ string, value ≠ .text string) → value.WellFormed

theorem Value.text_or_other (value : Value) : (∃ string, value = .text string) ∨ ∀ string, value ≠ .text string := by
  rw [← not_exists]
  exact Classical.em _

-- The first fault from the left, outside before inside.
inductive CommandFault (job : String) : Value → Failure → Prop where
  | shape {value : Value} : (∀ items, value ≠ .list items) → CommandFault job value (.commandNotList job value)
  | empty : CommandFault job (.list []) (.commandEmpty job)
  | inside {before after : List Value} {item : Value} {failure : Failure} :
      (∀ earlier ∈ before, earlier.IsArgument) → (∀ string, item ≠ .text string) →
      CommandFault job item failure → CommandFault job (.list (before ++ item :: after)) failure

namespace Command

variable {job : String} {value : Value} {items : List Value} {failure : Failure}

theorem arguments_mapM (job : String) (items : List Value) : arguments job items = items.mapM (argument job) := by
  induction items with
  | nil => rfl
  | cons item rest ih =>
      rw [arguments, ih, List.mapM_cons]

theorem argument_command (other : ∀ string, value ≠ .text string) :
    argument job value = ofValue job value >>= fun read => .ok (.output read) := by
  cases value with
  | text string => exact absurd rfl (other string)
  | list items =>
      rw [argument, ofValue]
      cases arguments job items with
      | error failure => rfl
      | ok read =>
          cases read with
          | nil => rfl
          | cons first rest => rfl
  | null => rfl
  | bool flag => rfl
  | int number => rfl
  | real number => rfl
  | table rows => rfl

theorem ofValue_items : ofValue job (.list items) = items.mapM (argument job) >>= fun read =>
    if read.isEmpty then .error (.commandEmpty job) else .ok read := by
  rw [ofValue, arguments_mapM]
  rfl

theorem argument_reads (read : (∀ string, value ≠ .text string) → ∃ command, ofValue job value = .ok command) :
    ∃ given, argument job value = .ok given := by
  rcases value.text_or_other with ⟨string, rfl⟩ | other
  · exact ⟨.text string, rfl⟩
  · obtain ⟨command, ran⟩ := read other
    exact ⟨.output command, by rw [argument_command other, ran]; rfl⟩

theorem wellFormed_reads (formed : value.WellFormed) : ∃ command, ofValue job value = .ok command := by
  induction formed with
  | @list items filled _ ih =>
      obtain ⟨read, ran⟩ := mapM_succeeds fun item present => argument_reads (ih item present)
      have some : read ≠ [] := by
        rintro rfl
        cases mapM_ok.mp ran
        exact filled rfl
      refine ⟨read, ?_⟩
      rw [ofValue_items]
      exact bind_ok.mpr ⟨read, ran, if_neg (by simpa using some)⟩

theorem fault_refused (fault : CommandFault job value failure) : ofValue job value = .error failure := by
  induction fault with
  | @shape value other =>
      cases value with
      | list items => exact absurd rfl (other items)
      | null | bool flag | int number | real number | text string | table rows => rfl
  | empty => rfl
  | @inside before after item failure earlier other _ ih =>
      rw [ofValue_items]
      refine bind_error.mpr (.inl (mapM_error.mpr ⟨before, item, after, rfl, ?_, ?_⟩))
      · exact fun one present => argument_reads fun plain => wellFormed_reads (earlier one present plain)
      · rw [argument_command other, ih]
        rfl

theorem reading_settled (job : String) :
    (∀ value : Value, value.WellFormed ∨ ∃ failure, CommandFault job value failure) ∧
    ∀ items : List Value, (∀ item ∈ items, item.IsArgument) ∨
      ∃ before item after failure, items = before ++ item :: after ∧ (∀ earlier ∈ before, earlier.IsArgument) ∧
        (∀ string, item ≠ .text string) ∧ CommandFault job item failure := by
  refine argument.mutual_induct _ _ ?text ?list ?other ?nil ?cons
  case text =>
    intro string
    exact .inr ⟨_, .shape (by simp)⟩
  case list =>
    intro items ih
    rcases ih with fitting | ⟨before, item, after, failure, rfl, earlier, other, fault⟩
    · cases items with
      | nil => exact .inr ⟨_, .empty⟩
      | cons first rest => exact .inl (.list (by simp) fitting)
    · exact .inr ⟨failure, .inside earlier other fault⟩
  case other =>
    intro value _ notList
    exact .inr ⟨_, .shape notList⟩
  case nil => exact .inl (by simp)
  case cons =>
    intro item rest settled others
    have head : item.IsArgument ∨ (∀ string, item ≠ .text string) ∧ ∃ failure, CommandFault job item failure := by
      rcases item.text_or_other with ⟨string, rfl⟩ | other
      · exact .inl fun other => absurd rfl (other string)
      · rcases settled with formed | fault
        · exact .inl fun _ => formed
        · exact .inr ⟨other, fault⟩
    rcases head with fits | ⟨other, failure, fault⟩
    · rcases others with fitting | ⟨before, stray, after, failure, rfl, earlier, other, fault⟩
      · exact .inl (List.forall_mem_cons.mpr ⟨fits, fitting⟩)
      · exact .inr ⟨item :: before, stray, after, failure, rfl, List.forall_mem_cons.mpr ⟨fits, earlier⟩, other, fault⟩
    · exact .inr ⟨[], item, rest, failure, rfl, by simp, other, fault⟩

theorem reads_iff : (∃ command, ofValue job value = .ok command) ↔ value.WellFormed := by
  constructor
  · rintro ⟨command, read⟩
    rcases (reading_settled job).1 value with formed | ⟨failure, fault⟩
    · exact formed
    · cases read.symm.trans (fault_refused fault)
  · exact wellFormed_reads

theorem refused_iff : ofValue job value = .error failure ↔ CommandFault job value failure := by
  constructor
  · intro refused
    rcases (reading_settled job).1 value with formed | ⟨other, fault⟩
    · obtain ⟨command, read⟩ := reads_iff.mpr formed
      cases read.symm.trans refused
    · cases (fault_refused fault).symm.trans refused
      exact fault
  · exact fault_refused

theorem fault_reported (fault : CommandFault job value failure) : failure.report.kind = .configuration := by
  induction fault with
  | shape => rfl
  | empty => rfl
  | inside _ _ _ ih => exact ih

end Command
end BuildMatrix
