import BuildMatrix.Proofs.Generation.Origins
import BuildMatrix.Proofs.Words

namespace BuildMatrix

theorem nodup_classes {α β γ δ : Type} [DecidableEq γ] {whole : α → β} {sort : α → γ} {part : α → δ}
    (same : ∀ one other, whole one = whole other ↔ sort one = sort other ∧ part one = part other)
    (items : List α) :
    (items.map whole).Nodup ↔ ∀ kind, ((items.filter fun item => sort item = kind).map part).Nodup := by
  simp only [List.Nodup, List.pairwise_map]
  simp only [List.pairwise_iff_forall_sublist]
  constructor
  · intro apart kind one other within parts
    have sorted : ∀ item ∈ [one, other], sort item = kind := by
      intro item present
      simpa using (List.mem_filter.mp (within.subset present)).2
    have equal := (sorted one (by simp)).trans (sorted other (by simp)).symm
    exact apart (within.trans List.filter_sublist) ((same one other).mpr ⟨equal, parts⟩)
  · intro apart one other within wholes
    obtain ⟨equal, parts⟩ := (same one other).mp wholes
    have both : [one, other].filter (fun item => sort item = sort one) = [one, other] := by simp [equal]
    have classed := within.filter fun item => decide (sort item = sort one)
    rw [both] at classed
    exact apart (sort one) classed parts

namespace JobKind

-- Kinds whose names open alike. Otherwise the stems keep names apart, whatever
-- the traits are called and whatever label is given.
def family : JobKind → JobKind
  | .muslBuild => .build
  | kind => kind

theorem stem_family (one other : JobKind) : one.stem = other.stem ↔ one.family = other.family := by
  cases one <;> cases other <;> decide

theorem stem_apart (one other : JobKind) (tail rest : String) :
    one.stem ++ tail = other.stem ++ rest ↔ one.stem = other.stem ∧ tail = rest := by
  have free : PrefixFree (JobKind.pipelineOrder.map stem) := by decide
  exact prefixFree_append free (List.mem_map_of_mem (mem_pipelineOrder one))
    (List.mem_map_of_mem (mem_pipelineOrder other))

def tier : JobKind → Nat
  | .build | .muslBuild => 0
  | .compilerTest | .jsTest | .libgraalBuild | .runOnly => 1
  | .libgraalTest => 2

theorem mem_needs {kind : JobKind} {word : String} : word ∈ kind.needs ↔
    (word = "labsjdk" ∧ kind ∈ [.compilerTest, .jsTest, .libgraalBuild, .libgraalTest, .runOnly]) ∨
      ((word = "graal-commit" ∨ word = "libgraal") ∧ kind = .libgraalTest) := by
  cases kind <;> simp [needs]

end JobKind

def artifactWords : List String := ["labsjdk", "graal-commit", "libgraal"]

theorem artifact_apart {one other : String} (first : one ∈ artifactWords) (second : other ∈ artifactWords)
    (tail rest : String) : one ++ tail = other ++ rest ↔ one = other ∧ tail = rest :=
  prefixFree_append (by decide) first second

namespace Origin

variable {origin producer consumer : Origin} {word artifact : String} {origins : List Origin}

theorem tail_suffix (other : origin.kind ≠ .runOnly) : origin.tail = origin.suffix := by
  unfold tail
  split
  · rename_i run
    exact False.elim (other run)
  · rfl

theorem jobName_same (one other : Origin) :
    one.jobName = other.jobName ↔ one.kind.family = other.kind.family ∧ one.tail = other.tail := by
  unfold jobName
  rw [JobKind.stem_apart, JobKind.stem_family]

theorem mem_offers : word ∈ origin.offers ↔
    (origin.kind = .build ∧ origin.musl = false ∧ word = "labsjdk") ∨
      (origin.kind = .libgraalBuild ∧ (word = "graal-commit" ∨ word = "libgraal")) := by
  obtain ⟨kind, musl, label, composed⟩ := origin
  cases kind <;> cases musl <;> simp [offers]

theorem offers_words (offered : word ∈ origin.offers) : word ∈ artifactWords := by
  rcases mem_offers.mp offered with ⟨_, _, rfl⟩ | ⟨_, rfl | rfl⟩ <;> decide

theorem needs_words {kind : JobKind} (needed : word ∈ kind.needs) : word ∈ artifactWords := by
  rcases JobKind.mem_needs.mp needed with ⟨rfl, _⟩ | ⟨rfl | rfl, _⟩ <;> decide

theorem published_word (known : word ∈ artifactWords) (suffix : String) :
    word ++ suffix ∈ origin.published ↔ word ∈ origin.offers ∧ origin.suffix = suffix := by
  unfold published
  rw [List.mem_map]
  constructor
  · rintro ⟨other, offered, equal⟩
    obtain ⟨rfl, rfl⟩ := (artifact_apart (offers_words offered) known _ _).mp equal
    exact ⟨offered, rfl⟩
  · rintro ⟨offered, rfl⟩
    exact ⟨word, offered, rfl⟩

theorem offers_before (offered : word ∈ producer.offers) (needed : word ∈ consumer.kind.needs) :
    producer.kind.tier < consumer.kind.tier := by
  rcases mem_offers.mp offered with ⟨made, _, rfl⟩ | ⟨made, words⟩
  · rcases JobKind.mem_needs.mp needed with ⟨_, kinds⟩ | ⟨wrong, _⟩
    · simp only [List.mem_cons, List.not_mem_nil, or_false] at kinds
      rcases kinds with kind | kind | kind | kind | kind <;> simp [made, kind, JobKind.tier]
    · simp at wrong
  · rcases JobKind.mem_needs.mp needed with ⟨rfl, _⟩ | ⟨_, kind⟩
    · simp at words
    · simp [made, kind, JobKind.tier]

theorem exchanged (made : artifact ∈ producer.published) (needed : artifact ∈ consumer.required) :
    producer.suffix = consumer.suffix ∧ ∃ word ∈ producer.offers, word ∈ consumer.kind.needs := by
  obtain ⟨word, required, rfl⟩ := List.mem_map.mp needed
  obtain ⟨offered, same⟩ := (published_word (needs_words required) _).mp made
  exact ⟨same, word, offered, required⟩

-- Jobs that would bear one name: the two kinds of JDK among themselves, the jobs
-- of any other kind among themselves.
structure Apart (origins : List Origin) : Prop where
  jdk : ((origins.filter fun origin => origin.kind = .build ∨ origin.kind = .muslBuild).map suffix).Nodup
  alike : ∀ kind ∈ [JobKind.compilerTest, .jsTest, .libgraalBuild, .libgraalTest],
    ((origins.filter fun origin => origin.kind = kind).map suffix).Nodup
  runs : ((origins.filter fun origin => origin.kind = .runOnly).map fun origin =>
    origin.label ++ origin.suffix).Nodup

-- Each job finds the builds that it takes its artifacts from.
structure Supplied (origins : List Origin) : Prop where
  jdk : ∀ origin ∈ origins,
    origin.kind ∈ [JobKind.compilerTest, .jsTest, .libgraalBuild, .libgraalTest, .runOnly] →
    ∃ source ∈ origins, source.kind = .build ∧ source.musl = false ∧ source.suffix = origin.suffix
  libgraal : ∀ origin ∈ origins, origin.kind = .libgraalTest →
    ∃ source ∈ origins, source.kind = .libgraalBuild ∧ source.suffix = origin.suffix

theorem tails_suffixes {kind : JobKind} {chosen : Origin → Prop} [DecidablePred chosen]
    (among : ∀ origin : Origin, origin.kind.family = kind ↔ chosen origin)
    (others : ∀ origin : Origin, chosen origin → origin.kind ≠ .runOnly) :
    (origins.filter fun origin => origin.kind.family = kind).map tail =
      (origins.filter fun origin => chosen origin).map suffix := by
  simp only [among]
  refine List.map_congr_left ?_
  intro origin present
  exact tail_suffix (others origin (by simpa using (List.mem_filter.mp present).2))

theorem jdk_tails : (origins.filter fun origin => origin.kind.family = .build).map tail =
    (origins.filter fun origin => origin.kind = .build ∨ origin.kind = .muslBuild).map suffix := by
  refine tails_suffixes ?_ ?_
  · intro origin
    cases origin.kind <;> simp [JobKind.family]
  · rintro origin (kind | kind) <;> simp [kind]

theorem alike_tails {kind : JobKind} (listed : kind ∈ [JobKind.compilerTest, .jsTest, .libgraalBuild, .libgraalTest]) :
    (origins.filter fun origin => origin.kind.family = kind).map tail =
      (origins.filter fun origin => origin.kind = kind).map suffix := by
  refine tails_suffixes ?_ ?_
  · intro origin
    revert listed
    cases origin.kind <;> cases kind <;> simp [JobKind.family]
  · rintro origin rfl run
    simp [run] at listed

theorem run_tails : (origins.filter fun origin => origin.kind.family = .runOnly).map tail =
    (origins.filter fun origin => origin.kind = .runOnly).map fun origin => origin.label ++ origin.suffix := by
  have among : ∀ origin : Origin, origin.kind.family = .runOnly ↔ origin.kind = .runOnly := by
    intro origin
    cases origin.kind <;> simp [JobKind.family]
  simp only [among]
  refine List.map_congr_left ?_
  intro origin present
  have run : origin.kind = .runOnly := by simpa using (List.mem_filter.mp present).2
  simp [tail, run]

theorem apart_names : Apart origins ↔ (origins.map jobName).Nodup := by
  rw [nodup_classes jobName_same]
  constructor
  · intro apart kind
    cases kind with
    | build => exact jdk_tails ▸ apart.jdk
    | compilerTest | jsTest | libgraalBuild | libgraalTest =>
        rw [alike_tails (by decide)]
        exact apart.alike _ (by decide)
    | runOnly => exact run_tails ▸ apart.runs
    | muslBuild =>
        have none : (origins.filter fun origin => origin.kind.family = .muslBuild) = [] := by
          rw [List.filter_eq_nil_iff]
          intro origin _
          cases origin.kind <;> simp [JobKind.family]
        simp [none]
  · intro classes
    refine ⟨jdk_tails ▸ classes .build, ?_, run_tails ▸ classes .runOnly⟩
    intro kind listed
    rw [← alike_tails listed]
    exact classes kind

theorem supplied_artifacts : Supplied origins ↔
    ∀ origin ∈ origins, ∀ artifact ∈ origin.required, ∃ source ∈ origins, artifact ∈ source.published := by
  have worded : (∀ origin ∈ origins, ∀ artifact ∈ origin.required, ∃ source ∈ origins, artifact ∈ source.published) ↔
      ∀ origin ∈ origins, ∀ word ∈ origin.kind.needs,
        ∃ source ∈ origins, word ∈ source.offers ∧ source.suffix = origin.suffix := by
    simp only [required, List.forall_mem_map]
    refine forall₂_congr fun origin _ => forall₂_congr fun word needed => ?_
    simp only [published_word (needs_words needed)]
  rw [worded]
  constructor
  · intro supplied origin present word needed
    rcases JobKind.mem_needs.mp needed with ⟨rfl, kinds⟩ | ⟨words, kind⟩
    · obtain ⟨source, held, made, glibc, same⟩ := supplied.jdk origin present kinds
      exact ⟨source, held, mem_offers.mpr (.inl ⟨made, glibc, rfl⟩), same⟩
    · obtain ⟨source, held, made, same⟩ := supplied.libgraal origin present kind
      exact ⟨source, held, mem_offers.mpr (.inr ⟨made, words⟩), same⟩
  · intro each
    constructor
    · intro origin present kinds
      obtain ⟨source, held, offered, same⟩ :=
        each origin present "labsjdk" (JobKind.mem_needs.mpr (.inl ⟨rfl, kinds⟩))
      rcases mem_offers.mp offered with ⟨made, glibc, _⟩ | ⟨_, wrong⟩
      · exact ⟨source, held, made, glibc, same⟩
      · simp at wrong
    · intro origin present kind
      obtain ⟨source, held, offered, same⟩ :=
        each origin present "libgraal" (JobKind.mem_needs.mpr (.inr ⟨.inr rfl, kind⟩))
      rcases mem_offers.mp offered with ⟨_, _, wrong⟩ | ⟨made, _⟩
      · simp at wrong
      · exact ⟨source, held, made, same⟩

theorem offers_kind {one other : Origin} (first : word ∈ one.offers) (second : word ∈ other.offers) :
    one.kind = other.kind ∧ one.kind ≠ .runOnly := by
  rcases mem_offers.mp first with ⟨made, _, rfl⟩ | ⟨made, words⟩
  · rcases mem_offers.mp second with ⟨kind, _, _⟩ | ⟨_, wrong⟩
    · simp [made, kind]
    · simp at wrong
  · rcases mem_offers.mp second with ⟨_, _, rfl⟩ | ⟨kind, _⟩
    · simp at words
    · simp [made, kind]

theorem published_nodup (origin : Origin) : origin.published.Nodup := by
  have words : origin.offers.Nodup := by
    obtain ⟨kind, musl, label, composed⟩ := origin
    cases kind <;> cases musl <;> simp [offers]
  exact words.map fun _ _ equal => (String.append_left_inj _).mp equal

-- An artifact with two producers would be made by two jobs of one name.
theorem published_single (distinct : (origins.map jobName).Nodup) : (origins.flatMap published).Nodup := by
  rw [List.nodup_flatMap]
  refine ⟨fun origin _ => published_nodup origin, (List.pairwise_map.mp distinct).imp ?_⟩
  intro one other apart artifact first second
  obtain ⟨word, offered, rfl⟩ := List.mem_map.mp first
  obtain ⟨also, same⟩ := (published_word (offers_words offered) _).mp second
  obtain ⟨kinds, named⟩ := offers_kind offered also
  refine apart ((jobName_same one other).mpr ⟨congrArg JobKind.family kinds, ?_⟩)
  rw [tail_suffix named, tail_suffix (kinds ▸ named), same]

end Origin

end BuildMatrix
