import BuildMatrix.Proofs.Mapping
import BuildMatrix.Proofs.Outcomes
import BuildMatrix.Registry.Catalogue

namespace BuildMatrix

variable {registry : Registry} {name : String} {trait : Trait}

theorem get_ok : registry.get name = .ok trait ↔ registry.traits.get? name = some trait := by
  unfold Registry.get
  cases registry.traits.get? name with
  | none => simp
  | some held => simp

theorem get_error {failure : Failure} : registry.get name = .error failure ↔
    registry.traits.get? name = none ∧ failure = Registry.unknown registry.traits (.text name) := by
  unfold Registry.get
  cases registry.traits.get? name with
  | none => simp [eq_comm]
  | some held => simp

theorem catalogue_listed (found : Registry.catalogue.get name = .ok trait) : trait ∈ Catalogue.traits := by
  have listed : (name, trait) ∈ Catalogue.table.rows := Mapping.mem_rows (get_ok.mp found)
  rw [Catalogue.table, Mapping.ofList_rows _ (by decide)] at listed
  obtain ⟨same, present, equal⟩ := List.mem_map.mp listed
  cases equal
  exact present

end BuildMatrix
