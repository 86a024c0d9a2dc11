import BuildMatrix.Proofs.Generation.Steps
import BuildMatrix.Proofs.Mapping

namespace BuildMatrix

namespace Value

theorem text_same {string : String} {value : Value} : (Value.text string).Same value ↔ value = .text string := by
  constructor
  · intro same
    cases same
    rfl
  · rintro rfl
    exact .text string

theorem same_text {one other : String} : (Value.text one).Same (.text other) ↔ one = other := by
  rw [text_same, Value.text.injEq, eq_comm]

theorem same_bool {one other : Bool} : (Value.bool one).Same (.bool other) ↔ one = other := by
  constructor
  · intro same
    cases same
    rfl
  · rintro rfl
    exact .bool one

theorem same_list {items others : List Value} :
    (Value.list items).Same (.list others) ↔ List.Forall₂ Same items others := by
  rw [List.forall₂_iff_get]
  constructor
  · intro same
    cases same with
    | list size each =>
        refine ⟨size, fun place first second => ?_⟩
        exact each place _ _ (List.getElem?_eq_getElem first) (List.getElem?_eq_getElem second)
  · rintro ⟨size, each⟩
    refine .list size fun place one other first second => ?_
    obtain ⟨inside, rfl⟩ := List.getElem?_eq_some_iff.mp first
    obtain ⟨within, rfl⟩ := List.getElem?_eq_some_iff.mp second
    exact each place inside within

section
variable {rows others : List (String × Value)} {key : String} {one other : Value}

theorem same_keys (same : (Value.table rows).Same (.table others)) : (rows.map Prod.fst).Perm (others.map Prod.fst) := by
  cases same with
  | table keys _ => exact keys

theorem same_row (fresh : key ∉ rows.map Prod.fst) (new : key ∉ others.map Prod.fst) :
    (Value.table ((key, one) :: rows)).Same (.table ((key, other) :: others)) ↔
      one.Same other ∧ (Value.table rows).Same (.table others) := by
  constructor
  · intro same
    cases same with
    | table keys each =>
        refine ⟨each key one other List.mem_cons_self List.mem_cons_self, .table keys.cons_inv ?_⟩
        intro name first second here there
        exact each name first second (List.mem_cons_of_mem _ here) (List.mem_cons_of_mem _ there)
  · rintro ⟨head, same⟩
    cases same with
    | table keys each =>
        refine .table (keys.cons key) fun name first second here there => ?_
        rcases List.mem_cons.mp here with equal | here
        · cases equal
          rcases List.mem_cons.mp there with equal | there
          · cases equal
            exact head
          · exact absurd (List.mem_map_of_mem there) new
        · rcases List.mem_cons.mp there with equal | there
          · cases equal
            exact absurd (List.mem_map_of_mem here) fresh
          · exact each name first second here there

end

def present (entries : List (String × Option Value)) : List (String × Value) :=
  entries.flatMap fun entry => optionalRow entry.1 entry.2

section
variable {entries others : List (String × Option Value)} {key : String} {one other : Option Value}

theorem present_none (key : String) (entries : List (String × Option Value)) :
    present ((key, none) :: entries) = present entries := rfl

theorem present_some (key : String) (value : Value) (entries : List (String × Option Value)) :
    present ((key, some value) :: entries) = (key, value) :: present entries := rfl

theorem present_fresh (fresh : key ∉ entries.map Prod.fst) : key ∉ (present entries).map Prod.fst := by
  induction entries with
  | nil => exact fresh
  | cons entry rest ih =>
      obtain ⟨name, given⟩ := entry
      obtain ⟨apart, free⟩ := not_or.mp (List.mem_cons.not.mp fresh)
      cases given with
      | none => exact ih free
      | some value => exact List.mem_cons.not.mpr (not_or.mpr ⟨apart, ih free⟩)

theorem missing_row {rows : List (String × Value)} {value : Value} (fresh : key ∉ rows.map Prod.fst)
    (more : List (String × Value)) : ¬(Value.table ((key, value) :: more)).Same (.table rows) := by
  intro same
  exact fresh ((same_keys same).mem_iff.mp List.mem_cons_self)

theorem same_present (keys : entries.map Prod.fst = others.map Prod.fst) (distinct : (entries.map Prod.fst).Nodup) :
    (Value.table (present entries)).Same (.table (present others)) ↔
      List.Forall₂ (fun one other => Option.Rel Same one.2 other.2) entries others := by
  induction entries generalizing others with
  | nil =>
      rw [List.map_eq_nil_iff.mp keys.symm]
      exact ⟨fun _ => .nil, fun _ => .table (List.Perm.refl _) nofun⟩
  | cons entry rest ih =>
      cases others with
      | nil => cases keys
      | cons also more =>
          obtain ⟨key, one⟩ := entry
          obtain ⟨name, other⟩ := also
          obtain ⟨rfl, later⟩ := List.cons.inj keys
          obtain ⟨fresh, distinct⟩ := List.nodup_cons.mp distinct
          have free : key ∉ (present rest).map Prod.fst := present_fresh fresh
          have new : key ∉ (present more).map Prod.fst := present_fresh (later ▸ fresh)
          rw [List.forall₂_cons, ← ih later distinct]
          cases one with
          | none =>
              cases other with
              | none => simp [present_none]
              | some value =>
                  rw [present_none, present_some]
                  have gone : ¬(Value.table (present rest)).Same (.table ((key, value) :: present more)) :=
                    fun same => missing_row free _ same.symm
                  simp [gone]
          | some value =>
              cases other with
              | none =>
                  rw [present_none, present_some]
                  simp [missing_row new]
              | some held => rw [present_some, present_some, same_row free new, Option.rel_some_some]

end

def Faithful {α : Type} (write : α → Value) : Prop := ∀ one other, (write one).Same (write other) ↔ one = other

section
variable {α : Type} {write : α → Value}

theorem text_faithful : Faithful Value.text := fun _ _ => same_text
theorem bool_faithful : Faithful Value.bool := fun _ _ => same_bool

theorem entries_faithful (entries : α → List (String × Option Value))
    (rows : ∀ item, write item = .table (present (entries item)))
    (keys : ∀ one other, (entries one).map Prod.fst = (entries other).map Prod.fst)
    (distinct : ∀ item, ((entries item).map Prod.fst).Nodup)
    (each : ∀ one other, List.Forall₂ (fun one other => Option.Rel Same one.2 other.2) (entries one) (entries other) ↔
      one = other) : Faithful write := by
  intro one other
  rw [rows, rows, same_present (keys one other) (distinct one), each]

theorem list_faithful (faithful : Faithful write) (items others : List α) :
    (Value.list (items.map write)).Same (.list (others.map write)) ↔ items = others := by
  have same : (fun one other => (write one).Same (write other)) = (Eq : α → α → Prop) := by
    funext one other
    exact propext (faithful one other)
  rw [same_list, List.forall₂_map_left_iff, List.forall₂_map_right_iff, same, List.forall₂_eq_eq_eq]

theorem texts_same (items others : List String) : (Value.texts items).Same (.texts others) ↔ items = others :=
  list_faithful text_faithful items others

theorem option_faithful (faithful : Faithful write) (one other : Option α) :
    Option.Rel Same (one.map write) (other.map write) ↔ one = other := by
  cases one with
  | none =>
      cases other with
      | none => simp
      | some value => simp
  | some held =>
      cases other with
      | none => simp
      | some value => simp [faithful held value]

theorem mem_record {mapping : Mapping α} {key : String} {value : Value} :
    (key, value) ∈ (mapping.rows.map fun row => (row.1, write row.2)) ↔
      ∃ held, mapping.get? key = some held ∧ write held = value := by
  rw [List.mem_map]
  constructor
  · rintro ⟨⟨name, held⟩, inside, equal⟩
    obtain ⟨rfl, rfl⟩ := Prod.mk.inj equal
    exact ⟨held, Mapping.get?_row inside, rfl⟩
  · rintro ⟨held, found, rfl⟩
    exact ⟨(key, held), Mapping.mem_rows found, rfl⟩

theorem mapping_faithful (faithful : Faithful write) (one other : Mapping α) :
    (one.record write).Same (other.record write) ↔ one.SameEntries other := by
  have listed : ∀ mapping : Mapping α,
      (mapping.rows.map fun row => (row.1, write row.2)).map Prod.fst = mapping.keys := by
    intro mapping
    rw [List.map_map]
    rfl
  unfold Mapping.record
  constructor
  · intro same key
    cases same with
    | table keys each =>
        rw [listed, listed] at keys
        cases here : one.get? key with
        | none =>
            have absent := (Mapping.get?_none_iff one key).mp here
            rw [keys.mem_iff] at absent
            exact ((Mapping.get?_none_iff other key).mpr absent).symm
        | some value =>
            cases there : other.get? key with
            | none =>
                have absent := (Mapping.get?_none_iff other key).mp there
                rw [← keys.mem_iff, ← Mapping.get?_none_iff, here] at absent
                cases absent
            | some held =>
                have agree := each key _ _ (mem_record.mpr ⟨value, here, rfl⟩) (mem_record.mpr ⟨held, there, rfl⟩)
                rw [(faithful value held).mp agree]
  · intro same
    refine .table ?_ fun key first second here there => ?_
    · rw [listed, listed]
      exact Mapping.sameEntries_keys same
    · obtain ⟨value, found, rfl⟩ := mem_record.mp here
      obtain ⟨held, met, rfl⟩ := mem_record.mp there
      rw [← same key, found] at met
      exact (faithful value held).mpr (Option.some.inj met)

theorem list_same {items : List Value} (only : ∀ others, List.Forall₂ Same items others ↔ others = items) (value : Value) :
    (Value.list items).Same value ↔ value = .list items := by
  constructor
  · intro same
    cases same with
    | list size each => rw [(only _).mp (same_list.mp (.list size each))]
  · rintro rfl
    exact same_list.mpr ((only items).mpr rfl)

theorem items_same {item : Value} {rest : List Value} (head : ∀ value, item.Same value ↔ value = item)
    (tail : ∀ others, List.Forall₂ Same rest others ↔ others = rest) (others : List Value) :
    List.Forall₂ Same (item :: rest) others ↔ others = item :: rest := by
  cases others with
  | nil => simp
  | cons other more => rw [List.forall₂_cons, head, tail, List.cons.injEq]

theorem arguments_same : (arguments : List Argument) → ∀ others : List Value,
    List.Forall₂ Same (Command.argumentValues arguments) others ↔ others = Command.argumentValues arguments
  | [] => fun _ => List.forall₂_nil_left_iff
  | .text string :: rest => items_same (fun _ => text_same) (arguments_same rest)
  | .output inner :: rest => items_same (list_same (arguments_same inner)) (arguments_same rest)

theorem commands_same {steps others : List Value} (commands : AreCommands steps) :
    (Value.list steps).Same (.list others) ↔ steps = others := by
  have only : ∀ others, List.Forall₂ Same steps others ↔ others = steps := by
    induction steps with
    | nil => exact fun _ => List.forall₂_nil_left_iff
    | cons step rest ih =>
        obtain ⟨⟨command, rfl⟩, later⟩ := List.forall_mem_cons.mp commands
        exact items_same (list_same (arguments_same command)) (ih later)
  rw [same_list, only, eq_comm]

end

end Value

open Value (Faithful entries_faithful present same_present)

-- Each record by the rows that it may have. Whether an artifact is unpacked can be told
-- from a row and from its absence.

def Download.entries (download : Download) : List (String × Option Value) :=
  [("name", some (.text download.name)), ("version", some (.text download.version)),
    ("platformspecific", some (.bool download.platformSpecific))]

def Docker.entries (docker : Docker) : List (String × Option Value) :=
  [("image", some (.text docker.image)), ("mount_modules", some (.bool docker.mountModules))]

def PublishedArtifact.entries (artifact : PublishedArtifact) : List (String × Option Value) :=
  [("name", some (.text artifact.name)), ("dir", some (.text artifact.dir)),
    ("patterns", some (.texts artifact.patterns))]

def RequiredArtifact.entries (artifact : RequiredArtifact) : List (String × Option Value) :=
  [("name", some (.text artifact.name)), ("dir", some (.text artifact.dir)),
    ("autoExtract", artifact.autoExtract.map .bool)]

theorem Download.record_faithful : Faithful Download.record := by
  refine entries_faithful entries (fun _ => rfl) (fun _ _ => rfl) (by simp [entries]) fun one other => ?_
  cases one
  cases other
  simp [entries, Value.same_text, Value.same_bool]

theorem Docker.record_faithful : Faithful Docker.record := by
  refine entries_faithful entries (fun _ => rfl) (fun _ _ => rfl) (by simp [entries]) fun one other => ?_
  cases one
  cases other
  simp [entries, Value.same_text, Value.same_bool]

theorem PublishedArtifact.record_faithful : Faithful PublishedArtifact.record := by
  refine entries_faithful entries (fun _ => rfl) (fun _ _ => rfl) (by simp [entries]) fun one other => ?_
  cases one
  cases other
  simp [entries, Value.same_text, Value.texts_same]

theorem RequiredArtifact.record_faithful : Faithful RequiredArtifact.record := by
  have rows : ∀ artifact : RequiredArtifact, artifact.record = .table (present artifact.entries) := by
    intro artifact
    simp [record, entries, present, optionalRow]
  refine entries_faithful entries rows (fun _ _ => rfl) (by simp [entries]) fun one other => ?_
  cases one
  cases other
  simp [entries, Value.same_text, Value.option_faithful Value.bool_faithful]

namespace Job

-- Jobs that agree on all but their kind and the machine that they run on. Mappings and
-- the time limit are compared whatever the order of keys.
structure Agrees (one other : Job) : Prop where
  name : one.name = other.name
  timelimit : one.timelimit.Same other.timelimit
  logs : one.logs = other.logs
  targets : one.targets = other.targets
  run : one.run = other.run
  publishes : one.publishes = other.publishes
  requires : one.requires = other.requires
  environment : one.environment.SameEntries other.environment
  downloads : one.downloads.SameEntries other.downloads
  packages : one.packages.SameEntries other.packages
  capabilities : one.capabilities = other.capabilities
  diskspaceRequired : one.diskspaceRequired = other.diskspaceRequired
  setup : one.setup = other.setup
  docker : one.docker = other.docker
  pythonVersion : one.pythonVersion = other.pythonVersion

def entries (job : Job) : List (String × Option Value) := [
  ("name", some (.text job.name)),
  ("timelimit", some job.timelimit),
  ("logs", some (.texts job.logs)),
  ("targets", some (.texts job.targets)),
  ("run", some (.list job.run)),
  ("publishArtifacts", some (.list (job.publishes.map PublishedArtifact.record))),
  ("requireArtifacts", some (.list (job.requires.map RequiredArtifact.record))),
  ("environment", some (job.environment.record .text)),
  ("downloads", some (job.downloads.record Download.record)),
  ("packages", some (job.packages.record .text)),
  ("capabilities", some (.texts job.capabilities)),
  ("diskspace_required", job.diskspaceRequired.map .text),
  ("setup", if job.setup = [] then none else some (.list job.setup)),
  ("docker", job.docker.map Docker.record),
  ("python_version", job.pythonVersion.map .text)]

variable {one other : Job}

theorem record_entries {job : Job} (scripted : job.Scripted) : job.record = .ok (.table (present job.entries)) := by
  have filled : (if job.setup.isEmpty then none else some (Value.list job.setup)) =
      if job.setup = [] then none else some (.list job.setup) := by simp only [List.isEmpty_iff]
  rw [record, scripted.run.walked, scripted.setup.walked]
  simp only [entries, present, List.flatMap_cons, List.flatMap_nil, List.append_nil, ← filled, bind_pure_comp,
    List.append_assoc]
  rfl

theorem setup_agrees {steps others : List Value} (commands : AreCommands steps) :
    Option.Rel Value.Same (if steps = [] then none else some (.list steps))
      (if others = [] then none else some (.list others)) ↔ steps = others := by
  by_cases empty : steps = []
  · by_cases none : others = []
    · simp [empty, none]
    · simp [empty, none, eq_comm]
  · by_cases none : others = []
    · simp [empty, none]
    · simp [empty, none, Value.commands_same commands]

theorem entries_agree (scripted : one.Scripted) :
    List.Forall₂ (fun one other => Option.Rel Value.Same one.2 other.2) one.entries other.entries ↔ one.Agrees other := by
  simp only [entries, List.forall₂_cons, Option.rel_some_some, Value.same_text, Value.texts_same,
    Value.commands_same scripted.run, setup_agrees scripted.setup,
    Value.list_faithful PublishedArtifact.record_faithful, Value.list_faithful RequiredArtifact.record_faithful,
    Value.mapping_faithful Value.text_faithful, Value.mapping_faithful Download.record_faithful,
    Value.option_faithful Value.text_faithful, Value.option_faithful Docker.record_faithful]
  constructor
  · rintro ⟨name, timelimit, logs, targets, run, publishes, requires, environment, downloads, packages, capabilities,
      diskspaceRequired, setup, docker, pythonVersion, _⟩
    exact ⟨name, timelimit, logs, targets, run, publishes, requires, environment, downloads, packages, capabilities,
      diskspaceRequired, setup, docker, pythonVersion⟩
  · rintro ⟨name, timelimit, logs, targets, run, publishes, requires, environment, downloads, packages, capabilities,
      diskspaceRequired, setup, docker, pythonVersion⟩
    exact ⟨name, timelimit, logs, targets, run, publishes, requires, environment, downloads, packages, capabilities,
      diskspaceRequired, setup, docker, pythonVersion, .nil⟩

-- Two records are the same exactly where the jobs agree: what a job leaves open is told
-- from everything that it could have said.
theorem record_exact (one other : Job) (scripted : one.Scripted) (also : other.Scripted) :
    ∃ first second, one.record = .ok first ∧ other.record = .ok second ∧ (first.Same second ↔ one.Agrees other) := by
  refine ⟨_, _, record_entries scripted, record_entries also, ?_⟩
  have keys : one.entries.map Prod.fst = other.entries.map Prod.fst := rfl
  rw [same_present keys (by simp [entries]), entries_agree scripted]

def parcel (kind : String) (os : Os) (labels : Mapping String) (unpack : Option Bool) : Job where
  name := "parcel"
  kind := kind
  os := os
  arch := "amd64"
  timelimit := .text "0:10:00"
  run := [Command.toValue ["echo", .output ["cat", "label"]]]
  environment := labels
  requires := [{ name := "labsjdk", autoExtract := unpack }]
  pythonVersion := some ""

theorem parcel_scripted (kind : String) (os : Os) (labels : Mapping String) (unpack : Option Bool) :
    (parcel kind os labels unpack).Scripted where
  run := by
    intro step present
    exact ⟨_, List.mem_singleton.mp present⟩
  setup := by
    intro step present
    cases present

theorem parcel_told : ∃ one other third : Job, one.Scripted ∧ other.Scripted ∧ third.Scripted ∧ one.kind ≠ other.kind ∧
    ∃ first second last, one.record = .ok first ∧ other.record = .ok second ∧ third.record = .ok last ∧
      first.Same second ∧ ¬first.Same last := by
  let forwards : Mapping String := ((∅ : Mapping String).insert "LANG" "C").insert "HOME" "/"
  let backwards : Mapping String := ((∅ : Mapping String).insert "HOME" "/").insert "LANG" "C"
  have swapped : forwards.SameEntries backwards := Mapping.sameEntries_swap ∅ (by decide) "C" "/"
  have one := parcel_scripted "run-only" .linux forwards none
  have other := parcel_scripted "build" .windows backwards none
  have third := parcel_scripted "run-only" .linux forwards (some false)
  obtain ⟨first, second, written, also, same⟩ := record_exact _ _ one other
  obtain ⟨again, last, repeated, told, apart⟩ := record_exact _ _ one third
  cases written.symm.trans repeated
  refine ⟨_, _, _, one, other, third, by decide, first, second, last, written, also, told, same.mpr ?_, ?_⟩
  · exact ⟨rfl, .text _, rfl, rfl, rfl, rfl, rfl, swapped, fun _ => rfl, fun _ => rfl, rfl, rfl, rfl, rfl, rfl⟩
  · intro equal
    cases (apart.mp equal).requires

end Job

end BuildMatrix
