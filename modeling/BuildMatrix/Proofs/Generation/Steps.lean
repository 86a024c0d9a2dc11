import BuildMatrix.Proofs.Generation.Outcome
import BuildMatrix.Proofs.Json.Descriptor

namespace BuildMatrix

-- A step that a builder writes is a command, and so is one that was handed to it,
-- since it was read as a command first.

variable {builder : Builder} {machine : Machine} {template : JobTemplate} {kind : JobKind} {parameters : Parameters}
  {job : Job}

theorem commands_values (commands : List Command) : AreCommands (commands.map Command.toValue) := by
  intro step present
  obtain ⟨command, _, rfl⟩ := List.mem_map.mp present
  exact ⟨command, rfl⟩

structure Job.Scripted (job : Job) : Prop where
  run : AreCommands job.run
  setup : AreCommands job.setup

theorem Job.record_scripted (scripted : job.Scripted) : ∃ record, job.record = .ok record :=
  ⟨_, by rw [record, scripted.run.walked, scripted.setup.walked]; rfl⟩

theorem buildKind_scripted (built : builder.buildKind machine template parameters kind = .ok job) :
    job.Scripted := by
  obtain ⟨_, _, _, _, _, rfl⟩ := Builder.buildKind_made built
  exact ⟨commands_values _, commands_values _⟩

theorem cell_scripted {cell : Cell} (built : cell.job builder = .ok job) : job.Scripted := by
  obtain ⟨_, _, built⟩ := bind_ok.mp built
  obtain ⟨_, _, built⟩ := build_kind built
  exact buildKind_scripted built

namespace Pipeline

variable {pipeline : Pipeline}

theorem descriptor_scripted (scripted : ∀ job ∈ pipeline.jobs, job.Scripted) (layout : Json.Layout) :
    ∃ text, pipeline.descriptor layout = .ok text := by
  obtain ⟨builds, written⟩ := mapM_succeeds fun job present => Job.record_scripted (scripted job present)
  exact ⟨_, by rw [descriptor, record, written]; rfl⟩

theorem generate_scripted {registry : Option Registry} {matrices : Option (List Matrix)} {settings : Option Settings}
    (generated : generate registry matrices settings = .ok pipeline) : ∀ job ∈ pipeline.jobs, job.Scripted := by
  obtain ⟨groups, built, _, rfl⟩ := generate_ok generated
  intro job present
  obtain ⟨cell, _, made⟩ := related_right (jobsByKind_ok.mp ⟨groups, built, rfl⟩) present
  exact cell_scripted made

theorem generate_written {registry : Option Registry} {matrices : Option (List Matrix)} {settings : Option Settings}
    (generated : generate registry matrices settings = .ok pipeline) (layout : Json.Layout) :
    ∃ text, pipeline.descriptor layout = .ok text :=
  descriptor_scripted (generate_scripted generated) layout

end Pipeline
end BuildMatrix
