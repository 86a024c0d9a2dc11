import BuildMatrix.Proofs.Building.References
import BuildMatrix.Proofs.Composition.ClosedForm

namespace BuildMatrix

mutual
def Value.mentions : Value → List String
  | .text string => references string
  | .list items => Value.mentionedIn items
  | _ => []
def Value.mentionedIn : List Value → List String
  | [] => []
  | item :: rest => item.mentions ++ Value.mentionedIn rest
end

def Value.exported? : Value → Option String
  | .list (.text "set-export" :: .text name :: _) => some name
  | _ => none

-- Steps that refer only to what is known, or is exported by one of them before.
def Covered (known : List String) : List Value → Prop
  | [] => True
  | step :: rest => step.mentions ⊆ known ∧ Covered (known ++ step.exported?.toList) rest

section
variable {known others : List String} {first second before after steps : List Value} {step : Value}

theorem covered_append : Covered known (first ++ second) ↔
    Covered known first ∧ Covered (known ++ first.filterMap Value.exported?) second := by
  induction first generalizing known with
  | nil => simp [Covered]
  | cons step rest ih =>
      have exports : (step :: rest).filterMap Value.exported? =
          step.exported?.toList ++ rest.filterMap Value.exported? := by
        rw [List.filterMap_cons]
        cases step.exported? with
        | none => rfl
        | some name => rfl
      rw [List.cons_append, Covered, Covered, ih, exports, List.append_assoc, and_assoc]

theorem covered_each (each : ∀ step ∈ steps, step.mentions ⊆ known) : Covered known steps := by
  induction steps generalizing known with
  | nil => trivial
  | cons step rest ih =>
      obtain ⟨head, tail⟩ := List.forall_mem_cons.mp each
      exact ⟨head, ih fun next present => List.Subset.trans (tail next present) (List.subset_append_left _ _)⟩

theorem covered_step (covered : Covered known (before ++ step :: after)) :
    step.mentions ⊆ known ++ before.filterMap Value.exported? := (covered_append.mp covered).2.1

end

@[simp]
theorem mentions_nothing : (Command.toValue []).mentions = [] := rfl

@[simp]
theorem mentions_text (string : String) (rest : Command) :
    (Command.toValue (.text string :: rest)).mentions = references string ++ (Command.toValue rest).mentions := rfl

@[simp]
theorem mentions_output (inner rest : Command) :
    (Command.toValue (.output inner :: rest)).mentions =
      (Command.toValue inner).mentions ++ (Command.toValue rest).mentions := rfl

theorem mentions_texts (texts : List String) :
    (Command.ofTexts texts).toValue.mentions = texts.flatMap references := by
  induction texts with
  | nil => rfl
  | cons text rest ih =>
      rw [Command.ofTexts] at ih ⊢
      rw [List.map_cons, mentions_text, ih, List.flatMap_cons]

@[simp]
theorem exported_set (name : String) (rest : Command) :
    (Command.toValue (.text "set-export" :: .text name :: rest)).exported? = some name := rfl

def Settings.Unmarked (settings : Settings) : Prop := ∀ row ∈ settings.rows, BuildMatrix.Unmarked row.2

structure JobTemplate.Faithful (template : JobTemplate) : Prop where
  path : FaithfulSpelling template.path
  exe : FaithfulSpelling template.exe
  jdkHome : FaithfulSpelling template.jdkHome
  copyDir : FaithfulCopy template.copyDir

structure Trait.Faithful (trait : Trait) : Prop where
  path : ∀ spelling, trait.path = some spelling → FaithfulSpelling spelling
  exe : ∀ spelling, trait.exe = some spelling → FaithfulSpelling spelling
  jdkHome : ∀ spelling, trait.jdkHome = some spelling → FaithfulSpelling spelling
  copyDir : ∀ copy, trait.copyDir = some copy → FaithfulCopy copy

variable {template composed : JobTemplate} {traits : List Trait} {settings : Settings} {known : List String}

theorem extend_faithful (faithful : template.Faithful) (each : ∀ trait ∈ traits, trait.Faithful)
    (extended : template.extend traits = .ok composed) : composed.Faithful := by
  have form := JobTemplate.extend_form extended
  refine ⟨?_, ?_, ?_, ?_⟩
  · rw [form.path]
    exact lastSet_getD faithful.path fun trait present => (each trait present).path
  · rw [form.exe]
    exact lastSet_getD faithful.exe fun trait present => (each trait present).exe
  · rw [form.jdkHome]
    exact lastSet_getD faithful.jdkHome fun trait present => (each trait present).jdkHome
  · rw [form.copyDir]
    exact lastSet_getD faithful.copyDir fun trait present => (each trait present).copyDir

theorem settings_unmarked (unmarked : settings.Unmarked) :
    references settings.builderRepo = [] ∧ references settings.builderVersion = [] ∧
      references settings.graalRepo = [] ∧ references settings.downstreamBranch = [] := by
  simp only [Settings.Unmarked, Settings.rows, List.forall_mem_cons] at unmarked
  obtain ⟨repo, version, graal, branch, _⟩ := unmarked
  exact ⟨references_unmarked repo, references_unmarked version, references_unmarked graal, references_unmarked branch⟩

namespace Steps

theorem lineEndings_quiet (template : JobTemplate) : ∀ step ∈ lineEndings template, step.toValue.mentions = [] := by
  intro step present
  unfold lineEndings at present
  split at present
  · rw [List.mem_singleton.mp present]
    decide
  · cases present

theorem lineEndings_covered : Covered known ((lineEndings template).map Command.toValue) := by
  refine covered_each fun value present => ?_
  obtain ⟨step, held, rfl⟩ := List.mem_map.mp present
  rw [lineEndings_quiet template step held]
  exact List.nil_subset _

theorem under_mentions {spelling : PathSpelling} (faithful : FaithfulSpelling spelling) {name rest : String}
    (named : IsName name) (unmarked : Unmarked rest) (present : name ∈ known) :
    references (spelling (envRef name ++ rest)) ⊆ known := by
  refine List.Subset.trans (faithful _) ?_
  rw [references_envRef_unmarked named unmarked]
  exact List.cons_subset.mpr ⟨present, List.nil_subset _⟩

section
variable (faithful : template.Faithful) {musl : Bool} {level : DebugLevel} {levels : List DebugLevel}
include faithful

theorem copyDir_mentions {source target rest : String} (first : IsName source) (second : IsName target)
    (plain : Unmarked rest) (here : source ∈ known) (there : target ∈ known) :
    (Command.ofTexts (template.copyDir (envRef source) (envRef target ++ rest))).toValue.mentions ⊆ known := by
  rw [mentions_texts]
  intro name present
  obtain ⟨argument, held, inside⟩ := List.mem_flatMap.mp present
  have either := faithful.copyDir _ _ argument held inside
  rw [references_envRef_alone first, references_envRef_unmarked second plain] at either
  simp only [List.mem_append, List.mem_singleton] at either
  rcases either with rfl | rfl
  · exact here
  · exact there

theorem checkoutBuilder_covered (unmarked : settings.Unmarked) (place : "PWD" ∈ known) :
    Covered known ((checkoutBuilder settings template).map Command.toValue) := by
  obtain ⟨repo, version, _⟩ := settings_unmarked unmarked
  have builder : references (envRef "LABSJDK_BUILDER_DIR") = ["LABSJDK_BUILDER_DIR"] :=
    references_envRef_alone (by decide)
  simp (disch := decide) only [checkoutBuilder, redirectedUrl, List.map_cons, List.map_nil, Covered, mentions_text,
    mentions_output, mentions_nothing, exported_set, references_unmarked, repo, version, builder]
  refine ⟨?_, ?_, ?_, trivial⟩
  · simpa using under_mentions faithful.path (by decide) (by decide) place
  · simp
  · simp

-- What a debug level contributes to the steps is a name, and a word without references.
structure DebugLevel.Named (level : DebugLevel) : Prop where
  word : Unmarked level.word
  home : IsName level.homeVariable

omit faithful in
theorem debugLevels_named (musl : Bool) : ∀ level ∈ debugLevels musl, DebugLevel.Named level := by
  have both : DebugLevel.Named release ∧ DebugLevel.Named fastdebug :=
    ⟨⟨by decide, by decide⟩, ⟨by decide, by decide⟩⟩
  cases musl with
  | true => simp [debugLevels, both]
  | false => simp [debugLevels, both]

theorem exportHome_mentions (named : DebugLevel.Named level) (place : "PWD" ∈ known) :
    (exportHome template level).toValue.mentions ⊆ known := by
  have home : Unmarked ("/../" ++ level.homeName) := by
    simp only [DebugLevel.homeName, unmarked_append]
    exact ⟨by decide, named.word, by decide⟩
  rw [exportHome, String.append_assoc]
  simp (disch := decide) only [mentions_text, mentions_nothing, references_unmarked,
    references_unmarked (name_unmarked named.home), List.nil_append, List.append_nil]
  exact under_mentions faithful.path (by decide) home place

theorem runBuilder_mentions (named : DebugLevel.Named level) (tools : ["PWD", "BOOT_JDK", "LABSJDK_BUILDER_DIR"] ⊆ known)
    (harness : musl = false → "JT_HOME" ∈ known) (home : level.homeVariable ∈ known) :
    (runBuilder template musl level).toValue.mentions ⊆ known := by
  simp only [List.cons_subset] at tools
  obtain ⟨place, boot, builder, _⟩ := tools
  have quiet : references ("--jdk-debug-level=" ++ level.word) = [] :=
    references_unmarked (unmarked_append.mpr ⟨by decide, named.word⟩)
  have target : references ("--java-home-link-target=" ++ envRef level.homeVariable) = [level.homeVariable] := by
    rw [references_after (by decide), references_envRef_alone named.home]
  have given : references ("--boot-jdk=" ++ envRef "BOOT_JDK") = ["BOOT_JDK"] := by decide
  have script : references (template.path (envRef "LABSJDK_BUILDER_DIR" ++ "/build_labsjdk.py")) ⊆ known :=
    under_mentions faithful.path (by decide) (by decide) builder
  have here : references (template.path (envRef "PWD")) ⊆ known := by
    have whole : envRef "PWD" = envRef "PWD" ++ "" := String.append_empty.symm
    rw [whole]
    exact under_mentions faithful.path (by decide) (by decide) place
  have tests : (if musl then [] else ["--jtreg=" ++ envRef "JT_HOME"]).flatMap references ⊆ known := by
    cases musl with
    | true => exact List.nil_subset _
    | false =>
        have jtreg : references ("--jtreg=" ++ envRef "JT_HOME") = ["JT_HOME"] := by decide
        simpa [jtreg] using harness rfl
  have suite : references ("--test=" ++ if musl then "none" else "run-test-tier1") = [] := by
    cases musl with
    | true => decide
    | false => decide
  rw [runBuilder, mentions_texts]
  simp (disch := decide) only [List.flatMap_append, List.flatMap_cons, List.flatMap_nil, references_unmarked, quiet,
    target, given, suite, List.append_subset, List.cons_subset, List.nil_subset, true_and, and_true]
  exact ⟨⟨⟨script, boot⟩, tests⟩, home, here⟩

theorem levels_covered (named : ∀ level ∈ levels, DebugLevel.Named level)
    (tools : ["PWD", "BOOT_JDK", "LABSJDK_BUILDER_DIR"] ⊆ known) (harness : musl = false → "JT_HOME" ∈ known) :
    Covered known ((levels.flatMap (buildLevel template musl)).map Command.toValue) := by
  induction levels generalizing known with
  | nil => trivial
  | cons level rest ih =>
      obtain ⟨head, others⟩ := List.forall_mem_cons.mp named
      have place : "PWD" ∈ known := tools (by simp)
      have more : ∀ names : List String, known ⊆ known ++ names := fun names => List.subset_append_left _ _
      have grown : ∀ names : List String, ["PWD", "BOOT_JDK", "LABSJDK_BUILDER_DIR"] ⊆ known ++ names :=
        fun names => List.Subset.trans tools (more names)
      rw [List.flatMap_cons, List.map_append, covered_append]
      refine ⟨⟨exportHome_mentions faithful head place, ?_, trivial⟩, ?_⟩
      · refine runBuilder_mentions faithful head (grown _) (fun plain => more _ (harness plain)) ?_
        simp [exportHome]
      · exact ih others (grown _) fun plain => more _ (harness plain)

omit faithful in
theorem homes_exported (level : DebugLevel) (present : level ∈ levels) : level.homeVariable ∈
    ((levels.flatMap (buildLevel template musl)).map Command.toValue).filterMap Value.exported? := by
  refine List.mem_filterMap.mpr ⟨(exportHome template level).toValue, ?_, by simp [exportHome]⟩
  refine List.mem_map_of_mem (List.mem_flatMap.mpr ⟨level, present, ?_⟩)
  simp [buildLevel]

theorem versions_covered (named : ∀ level ∈ levels, DebugLevel.Named level)
    (homes : ∀ level ∈ levels, level.homeVariable ∈ known) :
    Covered known ((levels.map (showVersion template)).map Command.toValue) := by
  refine covered_each fun value present => ?_
  rw [List.map_map] at present
  obtain ⟨level, held, rfl⟩ := List.mem_map.mp present
  simpa (disch := decide) [showVersion, references_unmarked] using
    under_mentions faithful.exe (named level held).home (by decide) (homes level held)

theorem copies_covered (named : ∀ level ∈ levels, DebugLevel.Named level) (place : "PWD" ∈ known)
    (homes : ∀ level ∈ levels, level.homeVariable ∈ known) :
    Covered known ((levels.map (keepHome template)).map Command.toValue) := by
  refine covered_each fun value present => ?_
  rw [List.map_map] at present
  obtain ⟨level, held, rfl⟩ := List.mem_map.mp present
  have name : Unmarked ("/" ++ level.homeName) := by
    simp only [DebugLevel.homeName, unmarked_append]
    exact ⟨by decide, (named level held).word, by decide⟩
  rw [Function.comp_apply, keepHome, String.append_assoc]
  exact copyDir_mentions faithful (named level held).home (by decide) name (homes level held) place

theorem jdk_covered (unmarked : settings.Unmarked) (tools : ["PWD", "BOOT_JDK"] ⊆ known)
    (harness : musl = false → "JT_HOME" ∈ known) :
    Covered known ((jdk settings template musl).map Command.toValue) := by
  have place : "PWD" ∈ known := tools (by simp)
  have boot : "BOOT_JDK" ∈ known := tools (by simp)
  have named := debugLevels_named musl
  have homes : ∀ level ∈ debugLevels musl, level.homeVariable ∈
      (((debugLevels musl).flatMap (buildLevel template musl)).map Command.toValue).filterMap Value.exported? :=
    homes_exported
  unfold jdk
  simp only [List.map_append, covered_append, List.filterMap_append]
  refine ⟨⟨⟨⟨lineEndings_covered, ?_⟩, ?_⟩, ?_⟩, ?_⟩
  · exact checkoutBuilder_covered faithful unmarked (List.mem_append_left _ place)
  · refine levels_covered faithful named ?_ fun plain => List.mem_append_left _ (harness plain)
    simp [place, boot, checkoutBuilder]
  · refine versions_covered faithful named fun level present => ?_
    simp only [List.mem_append]
    exact .inr (.inr (homes level present))
  · cases musl with
    | true => trivial
    | false =>
        refine copies_covered faithful named (List.mem_append_left _ place) fun level present => ?_
        simp only [List.mem_append]
        exact .inr (.inl (.inr (homes level present)))

omit faithful in
theorem cloneGraal_covered (unmarked : settings.Unmarked) (template : JobTemplate) :
    Covered known ((cloneGraal settings template).map Command.toValue) := by
  obtain ⟨_, _, repo, branch⟩ := settings_unmarked unmarked
  rw [cloneGraal, List.map_append, covered_append]
  refine ⟨lineEndings_covered, covered_each ?_⟩
  simp (disch := decide) [redirectedUrl, references_unmarked, repo, branch]

theorem exportJavaHome_covered (home : "LABSJDK_HOME" ∈ known) :
    Covered known ([exportJavaHome template].map Command.toValue) := by
  have read : references "$LABSJDK_HOME" = ["LABSJDK_HOME"] := by decide
  have spelled := faithful.jdkHome "$LABSJDK_HOME"
  rw [read] at spelled
  refine ⟨?_, trivial⟩
  simpa (disch := decide) [exportJavaHome, references_unmarked] using
    List.Subset.trans spelled (List.cons_subset.mpr ⟨home, List.nil_subset _⟩)

omit faithful in
theorem compilerTest_covered : Covered known (compilerTest.map Command.toValue) := by
  refine covered_each ?_
  simp (disch := decide) [compilerTest, references_unmarked]

omit faithful in
theorem jsTest_covered : Covered known (jsTest.map Command.toValue) := by
  refine covered_each ?_
  simp (disch := decide) [jsTest, references_unmarked]

omit faithful in
theorem libgraalTool_quiet {arguments : List String} (quiet : ∀ argument ∈ arguments, Unmarked argument) :
    (libgraalTool arguments).toValue.mentions = [] := by
  rw [libgraalTool, mentions_texts, List.flatMap_eq_nil_iff]
  intro argument present
  apply references_unmarked
  rcases List.mem_append.mp present with own | given
  · have plain : ∀ word ∈ ["mx", "-p", "graal/vm", "--env", "libgraal"], Unmarked word := by decide
    exact plain argument own
  · exact quiet argument given

theorem libgraalBuild_covered (place : "PWD" ∈ known) :
    Covered known ((libgraalBuild template).map Command.toValue) := by
  have commit : references (template.path (envRef "PWD" ++ "/graal-commit")) ⊆ known :=
    under_mentions faithful.path (by decide) (by decide) place
  refine ⟨?_, ?_, ?_, ?_, trivial⟩
  · rw [libgraalTool_quiet (by decide)]
    exact List.nil_subset _
  · simp (disch := decide) [references_unmarked, libgraalTool_quiet]
  · exact copyDir_mentions faithful (by decide) (by decide) (by decide) (by simp) (by simp [place])
  · simpa (disch := decide) [references_unmarked, references_after] using
      List.Subset.trans commit (List.subset_append_left _ _)

theorem libgraalTest_covered (place : "PWD" ∈ known) :
    Covered known ((libgraalTest template).map Command.toValue) := by
  have home : references (template.path (envRef "PWD" ++ "/libgraal-home")) ⊆ known :=
    under_mentions faithful.path (by decide) (by decide) place
  have java : references (template.exe (envRef "LIBGRAAL_HOME" ++ "/bin/java")) ⊆ ["LIBGRAAL_HOME"] :=
    under_mentions faithful.exe (by decide) (by decide) (by simp)
  refine ⟨?_, ?_, ?_, ?_, trivial⟩
  · simp (disch := decide) [references_unmarked]
  · simpa (disch := decide) [references_unmarked] using
      List.Subset.trans home (List.subset_append_left _ _)
  · simpa (disch := decide) [references_unmarked] using
      List.Subset.trans java (List.subset_append_of_subset_right _ (List.subset_append_right _ _))
  · rw [libgraalTool_quiet (by decide)]
    exact List.nil_subset _

end
end Steps

end BuildMatrix
