import BuildMatrix.Cli.Run
import BuildMatrix.Proofs.Generation.Steps
import BuildMatrix.Proofs.Graph.Reachability
import BuildMatrix.Proofs.Json.Encodable

namespace BuildMatrix

namespace Printed

@[simp] theorem append_out (first second : Printed) : (first ++ second).out = first.out ++ second.out := rfl

structure Warns (printed : Printed) : Prop where
  silent : printed.out = []
  told : printed.err ≠ ""

theorem Warns.append {first second : Printed} (warns : first.Warns) (silent : second.out = []) :
    (first ++ second).Warns :=
  ⟨by simp [warns.silent, silent], fun none => warns.told (String.append_eq_empty_iff.mp none).1⟩

theorem Warns.after {first second : Printed} (silent : first.out = []) (warns : second.Warns) :
    (first ++ second).Warns :=
  ⟨by simp [silent, warns.silent], fun none => warns.told (String.append_eq_empty_iff.mp none).2⟩

theorem linesErr_warns (line : String) (rest : List String) : (linesErr (line :: rest)).Warns :=
  ⟨rfl, by simp [linesErr, String.join_cons]⟩

theorem toErr_warns (line : String) : (toErr line).Warns := ⟨rfl, by simp [toErr]⟩

end Printed

namespace Console

open Printed

theorem error_warns (title message : String) (details : List String) (suggestion : String) :
    (error title message details suggestion).Warns := by
  refine (linesErr_warns _ _).append ?_
  split
  · rfl
  · rfl

theorem traceback_warns (failure : Failure) : (traceback failure).Warns := linesErr_warns _ _

theorem exception_warns (debug : Bool) (failure : Failure) : (exception debug failure).Warns := by
  unfold exception
  split
  · exact traceback_warns failure
  · exact toErr_warns _

theorem debugNote_silent (debug : Bool) (message : String) : (debugNote debug message).out = [] := by
  unfold debugNote
  split
  · rfl
  · rfl

end Console

namespace Cli

variable {workspace : Workspace MatrixFile.Source} {encodings : Encodings} {settings : Settings} {debug compact : Bool}
  {matrix output blockedBy : Option String} {pipeline : Pipeline} {source : String} {notes printed : Printed}
  {request : Request} {outcome : Outcome} {texts : List String} {file : Option String}
  {written : List (List String × String)}

-- What all commands work on, and where it is from: the built-in matrix, or what
-- is loaded from a file.
def produced (workspace : Workspace MatrixFile.Source) (settings : Settings) :
    Option String → Except Failure (Pipeline × String)
  | none => do return (← Pipeline.generate none none (some settings), "built-in")
  | some path => do
      let loaded ← MatrixFile.load workspace path
      return (← Pipeline.generate loaded.registry (some loaded.matrices) (some settings), loaded.path)

def Writable (workspace : Workspace MatrixFile.Source) (path : String) : Prop :=
  Path.isBroken path = false ∧ ∃ place, workspace.destination path = .ok place

-- What a request asks for beyond a pipeline.
def Granted (workspace : Workspace MatrixFile.Source) (pipeline : Pipeline) : Request → Prop
  | .generate _ (some path) _ => Writable workspace path
  | .plan _ (some name) => name ∈ pipeline.names
  | _ => True

-- What answers a request that is granted: the texts for the console, in turn, and
-- the text for the file. The descriptor is all of one or all of the other.
inductive Reply (pipeline : Pipeline) (source : String) : Request → List String → Option String → Prop where
  | shown (matrix : Option String) {compact : Bool} {text : String}
      (described : pipeline.descriptor (layoutOf compact) = .ok text) :
      Reply pipeline source (.generate matrix none compact) [text] none
  | filed (matrix : Option String) (path : String) {compact : Bool} {text : String}
      (described : pipeline.descriptor (layoutOf compact) = .ok text) :
      Reply pipeline source (.generate matrix (some path) compact) (wrote pipeline path).out (some text)
  | checked (matrix : Option String) :
      Reply pipeline source (.check matrix) (Console.summary pipeline source).out none
  | staged (matrix : Option String) {levels : List (List String)} (laid : pipeline.levels = .ok levels) :
      Reply pipeline source (.plan matrix none) (planStages pipeline levels).out none
  | skipped (matrix : Option String) {name : String} {jobs : List String}
      (found : pipeline.transitiveDependents name = .ok jobs) :
      Reply pipeline source (.plan matrix (some name)) (planSkipped name jobs).out none

theorem Reply.unique {others : List String} {second : Option String} (one : Reply pipeline source request texts file)
    (other : Reply pipeline source request others second) : texts = others ∧ file = second := by
  cases one with
  | shown _ described =>
      cases other with
      | shown _ again =>
          cases described.symm.trans again
          exact ⟨rfl, rfl⟩
  | filed _ _ described =>
      cases other with
      | filed _ _ again =>
          cases described.symm.trans again
          exact ⟨rfl, rfl⟩
  | checked _ =>
      cases other with
      | checked _ => exact ⟨rfl, rfl⟩
  | staged _ laid =>
      cases other with
      | staged _ again =>
          cases laid.symm.trans again
          exact ⟨rfl, rfl⟩
  | skipped _ found =>
      cases other with
      | skipped _ again =>
          cases found.symm.trans again
          exact ⟨rfl, rfl⟩

structure Carried (encodings : Encodings) (texts : List String) (file : Option String) : Prop where
  console : ∀ text ∈ texts, carries encodings.console text
  file : ∀ text ∈ file, carries encodings.file text

-- A request that names an output leaves one file there, and no other leaves any.
def Placed (workspace : Workspace MatrixFile.Source) (file : Option String) (written : List (List String × String)) :
    Request → Prop
  | .generate _ (some path) _ =>
      ∃ place text, workspace.destination path = .ok place ∧ file = some text ∧ written = [(place, text)]
  | _ => written = []

structure Succeeded (workspace : Workspace MatrixFile.Source) (request : Request) (texts : List String)
    (file : Option String) (outcome : Outcome) : Prop where
  code : outcome.exitCode = 0
  printed : outcome.printed.out = texts
  placed : Placed workspace file outcome.written request
  whole : outcome.escaped = none

-- A granted request whose answer cannot be written. A file that its text does not
-- go into is left empty, and nothing is printed; else all comes up to the first
-- text that the console refuses.
structure CutShort (workspace : Workspace MatrixFile.Source) (encodings : Encodings) (request : Request)
    (texts : List String) (file : Option String) (outcome : Outcome) : Prop where
  code : outcome.exitCode = 1
  escaped : outcome.escaped = some .unwritableText
  emptied : (¬∀ text ∈ file, carries encodings.file text) →
    outcome.printed.out = [] ∧ Placed workspace (some "") outcome.written request
  stopped : (∀ text ∈ file, carries encodings.file text) →
    outcome.printed.out = texts.takeWhile (carries encodings.console) ∧ Placed workspace file outcome.written request

def Unwritable (workspace : Workspace MatrixFile.Source) : Request → Prop
  | .generate _ (some path) _ => ¬Writable workspace path
  | _ => False

-- A request that is not granted, or has no pipeline to work on. Nothing escapes
-- the commands then but a failure to reach the output, and the runtime tells that.
structure Refused (workspace : Workspace MatrixFile.Source) (request : Request) (outcome : Outcome) : Prop where
  code : outcome.exitCode = 1
  silent : outcome.printed.out = []
  kept : outcome.written = []
  told : outcome.printed.err ≠ "" ∨ outcome.escaped ≠ none
  escapes : outcome.escaped ≠ none → Unwritable workspace request

theorem tell_warns (debug : Bool) (matrix : Option String) (failure : Failure) : (tell debug matrix failure).Warns := by
  have trace : (if debug then Console.traceback failure else {}).out = [] := by
    split
    · exact (Console.traceback_warns failure).silent
    · rfl
  unfold tell
  dsimp only
  split
  · exact (Console.error_warns _ _ _ _).append trace
  · split
    · exact (Console.error_warns _ _ _ _).append trace
    · exact Console.exception_warns debug failure

theorem warned_refused (warns : printed.Warns) : Refused workspace request { exitCode := 1, printed := printed } :=
  ⟨rfl, warns.silent, rfl, .inl warns.told, fun escaped => absurd rfl escaped⟩

theorem escaped_refused (silent : notes.out = []) (kind : FailureKind) (unwritable : Unwritable workspace request) :
    Refused workspace request (escape notes kind) :=
  ⟨rfl, silent, rfl, .inr (Option.some_ne_none kind), fun _ => unwritable⟩

theorem loadPipeline_silent : (loadPipeline workspace settings debug matrix).notes.out = [] := by
  unfold loadPipeline
  dsimp only
  split
  · exact Console.debugNote_silent _ _
  · split
    · exact Console.debugNote_silent _ _
    · simp [Console.debugNote_silent]

theorem loadPipeline_result (workspace : Workspace MatrixFile.Source) (settings : Settings) (debug : Bool)
    (matrix : Option String) :
    (loadPipeline workspace settings debug matrix).result = produced workspace settings matrix := by
  cases matrix with
  | none => rfl
  | some path =>
      unfold loadPipeline produced
      dsimp only
      cases MatrixFile.load workspace path with
      | error failure => rfl
      | ok loaded => rfl

structure Finished (pipeline : Pipeline) : Prop where
  described : ∀ layout, ∃ text, pipeline.descriptor layout = .ok text
  staged : ∃ levels, pipeline.levels = .ok levels

theorem generate_finished {registry : Option Registry} {matrices : Option (List Matrix)} {given : Option Settings}
    (generated : Pipeline.generate registry matrices given = .ok pipeline) : Finished pipeline where
  described := Pipeline.generate_written generated
  staged := by
    obtain ⟨_, _, sound, rfl⟩ := Pipeline.generate_ok generated
    obtain ⟨levels, computed, _⟩ := Pipeline.graph_staged sound
    exact ⟨levels, computed⟩

theorem produced_finished (made : produced workspace settings matrix = .ok (pipeline, source)) :
    Finished pipeline := by
  cases matrix with
  | none =>
      obtain ⟨_, generated, same⟩ := bind_ok.mp made
      cases same
      exact generate_finished generated
  | some path =>
      obtain ⟨_, _, rest⟩ := bind_ok.mp made
      obtain ⟨_, generated, same⟩ := bind_ok.mp rest
      cases same
      exact generate_finished generated

structure Concluded (workspace : Workspace MatrixFile.Source) (encodings : Encodings) (request : Request)
    (texts : List String) (file : Option String) (outcome : Outcome) : Prop where
  carried : Carried encodings texts file → Succeeded workspace request texts file outcome
  refused : ¬Carried encodings texts file → CutShort workspace encodings request texts file outcome

theorem conclude_ends (silent : notes.out = []) (fits : ∀ text ∈ file, carries encodings.file text)
    (placed : Placed workspace file written request) :
    Concluded workspace encodings request printed.out file (conclude encodings (notes ++ printed) written) := by
  have out : (notes ++ printed).out = printed.out := by simp [silent]
  unfold conclude
  rw [out]
  by_cases heard : ∀ text ∈ printed.out, carries encodings.console text
  · rw [if_pos (List.all_eq_true.mpr heard)]
    exact ⟨fun _ => ⟨rfl, out, placed, rfl⟩, fun refused => absurd ⟨heard, fits⟩ refused⟩
  · rw [if_neg fun all => heard (List.all_eq_true.mp all)]
    exact ⟨fun carried => absurd carried.console heard,
      fun _ => ⟨rfl, rfl, fun unfit => absurd fits unfit, fun _ => ⟨rfl, placed⟩⟩⟩

def Ends (workspace : Workspace MatrixFile.Source) (encodings : Encodings) (pipeline : Pipeline) (source : String)
    (request : Request) (outcome : Outcome) : Prop :=
  (Granted workspace pipeline request ∧ ∃ texts file, Reply pipeline source request texts file ∧
    Concluded workspace encodings request texts file outcome) ∨
  ¬Granted workspace pipeline request ∧ Refused workspace request outcome

theorem printed_ends (granted : Granted workspace pipeline request) (silent : notes.out = [])
    (reply : Reply pipeline source request printed.out none) (unplaced : Placed workspace none [] request) :
    Ends workspace encodings pipeline source request (conclude encodings (notes ++ printed) []) :=
  .inl ⟨granted, printed.out, none, reply, conclude_ends silent (fun _ none => nomatch none) unplaced⟩

theorem generate_ends (silent : notes.out = []) (finished : Finished pipeline)
    (whole : outputBroken (.generate matrix output compact) = false) :
    Ends workspace encodings pipeline source (.generate matrix output compact)
      (generate workspace encodings notes pipeline output compact) := by
  obtain ⟨text, described⟩ := finished.described (layoutOf compact)
  unfold generate
  rw [described]
  cases output with
  | none => exact printed_ends trivial silent (.shown _ described) rfl
  | some path =>
      dsimp only
      cases found : workspace.destination path with
      | error kind =>
          have unwritable : ¬Writable workspace path := by
            rintro ⟨_, place, reached⟩
            rw [found] at reached
            cases reached
          exact .inr ⟨unwritable, escaped_refused silent kind unwritable⟩
      | ok place =>
          refine .inl ⟨⟨whole, place, found⟩, _, some text, .filed _ _ described, ?_⟩
          dsimp only
          split
          next fits =>
            refine conclude_ends silent ?_ ⟨place, text, found, rfl, rfl⟩
            rintro _ ⟨⟩
            exact fits
          next unfit =>
            exact ⟨fun carried => absurd (carried.file text rfl) unfit,
              fun _ => ⟨rfl, rfl, fun _ => ⟨silent, place, "", found, rfl, rfl⟩,
                fun fits => absurd (fits text rfl) unfit⟩⟩

theorem plan_ends (silent : notes.out = []) (finished : Finished pipeline) :
    Ends workspace encodings pipeline source (.plan matrix blockedBy) (plan encodings notes pipeline blockedBy) := by
  unfold plan
  cases blockedBy with
  | none =>
      obtain ⟨levels, laid⟩ := finished.staged
      simp only [laid]
      exact printed_ends trivial silent (.staged _ laid) rfl
  | some name =>
      by_cases present : name ∈ pipeline.names
      · have found := Pipeline.transitiveDependents_known present
        simp only [found]
        exact printed_ends present silent (.skipped _ found) rfl
      · simp only [Pipeline.transitiveDependents_unknown present]
        exact .inr ⟨present, warned_refused (.after silent (Console.error_warns _ _ _ _))⟩

def Answers (workspace : Workspace MatrixFile.Source) (encodings : Encodings) (settings : Settings) (request : Request)
    (outcome : Outcome) : Prop :=
  (∃ pipeline source, produced workspace settings request.matrix = .ok (pipeline, source) ∧
    Granted workspace pipeline request ∧ ∃ texts file, Reply pipeline source request texts file ∧
      Concluded workspace encodings request texts file outcome) ∨
  (∀ pipeline source, produced workspace settings request.matrix = .ok (pipeline, source) →
    ¬Granted workspace pipeline request) ∧ Refused workspace request outcome

theorem ends_answer (made : produced workspace settings request.matrix = .ok (pipeline, source))
    (ends : Ends workspace encodings pipeline source request outcome) :
    Answers workspace encodings settings request outcome := by
  rcases ends with ⟨granted, answered⟩ | ⟨denied, refused⟩
  · exact .inl ⟨pipeline, source, made, granted, answered⟩
  · refine .inr ⟨fun other place also => ?_, refused⟩
    cases made.symm.trans also
    exact denied

theorem perform_answers (workspace : Workspace MatrixFile.Source) (encodings : Encodings) (settings : Settings)
    (invocation : Invocation) (whole : outputBroken invocation.request = false) :
    Answers workspace encodings settings invocation.request (perform workspace encodings settings invocation) := by
  obtain ⟨debug, request⟩ := invocation
  have silent : (loadPipeline workspace settings debug request.matrix).notes.out = [] := loadPipeline_silent
  have made := loadPipeline_result workspace settings debug request.matrix
  unfold perform
  dsimp only
  cases loaded : (loadPipeline workspace settings debug request.matrix).result with
  | error failure =>
      rw [loaded] at made
      refine .inr ⟨fun pipeline source also => ?_,
        warned_refused (.after silent (tell_warns debug request.matrix failure))⟩
      cases made.trans also
  | ok loading =>
      rw [loaded] at made
      have finished := produced_finished made.symm
      refine ends_answer made.symm ?_
      cases request with
      | generate matrix output compact => exact generate_ends silent finished whole
      | check matrix => exact printed_ends trivial silent (.checked _) rfl
      | plan matrix blockedBy => exact plan_ends silent finished

theorem broken_unwritable (broken : outputBroken request = true) : Unwritable workspace request := by
  cases request with
  | check matrix => cases broken
  | plan matrix blockedBy => cases broken
  | generate matrix output compact =>
      cases output with
      | none => cases broken
      | some path =>
          rintro ⟨whole, _⟩
          exact Bool.false_ne_true (whole.symm.trans broken)

theorem unwritable_granted (unwritable : Unwritable workspace request) : ¬Granted workspace pipeline request := by
  cases request with
  | check matrix => exact unwritable.elim
  | plan matrix blockedBy => exact unwritable.elim
  | generate matrix output compact =>
      cases output with
      | none => exact unwritable.elim
      | some path => exact unwritable

theorem run_answers (workspace : Workspace MatrixFile.Source) (encodings : Encodings) {lookup : String → Option String}
    {words : List String} {invocation : Invocation} (read : readArguments lookup words = some invocation)
    (allowed : outputRefused workspace invocation.request = false) :
    Answers workspace encodings (Settings.ofEnvironment lookup) invocation.request
      (run workspace encodings lookup words) := by
  unfold run
  simp only [read]
  cases broken : outputBroken invocation.request with
  | true =>
      have unwritable : Unwritable workspace invocation.request := broken_unwritable broken
      exact .inr ⟨fun _ _ _ => unwritable_granted unwritable, escaped_refused rfl _ unwritable⟩
  | false =>
      simp only [allowed, Bool.false_eq_true, if_false]
      exact perform_answers workspace encodings _ invocation broken

-- Whichever command is given, it succeeds exactly where the matrix yields a
-- pipeline, what it asks for besides is granted, and its answer can be written. It
-- says so and leaves nothing behind where one of the first two fails. The last is
-- not caught by any command, and an output is emptied by then.
theorem run_agrees (workspace : Workspace MatrixFile.Source) (encodings : Encodings) (lookup : String → Option String)
    (words : List String) (invocation : Invocation) (read : readArguments lookup words = some invocation)
    (allowed : outputRefused workspace invocation.request = false) :
    ((run workspace encodings lookup words).exitCode = 0 ↔ ∃ pipeline source texts file,
      produced workspace (Settings.ofEnvironment lookup) invocation.request.matrix = .ok (pipeline, source) ∧
        Granted workspace pipeline invocation.request ∧ Reply pipeline source invocation.request texts file ∧
        Carried encodings texts file) ∧
    (∀ pipeline source,
      produced workspace (Settings.ofEnvironment lookup) invocation.request.matrix = .ok (pipeline, source) →
      Granted workspace pipeline invocation.request → ∃ texts file,
        Reply pipeline source invocation.request texts file ∧
        Concluded workspace encodings invocation.request texts file (run workspace encodings lookup words)) ∧
    ((∀ pipeline source,
      produced workspace (Settings.ofEnvironment lookup) invocation.request.matrix = .ok (pipeline, source) →
      ¬Granted workspace pipeline invocation.request) →
      Refused workspace invocation.request (run workspace encodings lookup words)) := by
  rcases run_answers workspace encodings read allowed with
    ⟨pipeline, source, made, granted, texts, file, reply, concluded⟩ | ⟨denied, refused⟩
  · refine ⟨⟨fun ended => ?_, ?_⟩, ?_, fun denied => absurd granted (denied pipeline source made)⟩
    · by_cases carried : Carried encodings texts file
      · exact ⟨pipeline, source, texts, file, made, granted, reply, carried⟩
      · rw [(concluded.refused carried).code] at ended
        cases ended
    · rintro ⟨other, place, others, second, also, _, again, carried⟩
      cases made.symm.trans also
      obtain ⟨rfl, rfl⟩ := reply.unique again
      exact (concluded.carried carried).code
    · intro other place also _
      cases made.symm.trans also
      exact ⟨texts, file, reply, concluded⟩
  · refine ⟨⟨fun ended => ?_, ?_⟩, fun pipeline source made granted => ?_, fun _ => refused⟩
    · rw [refused.code] at ended
      cases ended
    · rintro ⟨pipeline, source, _, _, made, granted, _⟩
      exact absurd granted (denied pipeline source made)
    · exact absurd granted (denied pipeline source made)

def desk : Workspace MatrixFile.Source :=
  .ofFiles ["work"] "work" [(["work", "ci.py"], [("MATRIX", .list [.matrix (.ok ⟨.build, [["linux", "amd64"]], ∅⟩)])])]

def askAfter (job : String) : List String := ["plan", "--matrix", "ci.py", "--blocked-by", job]

def keep : List String := ["generate", "--matrix", "ci.py", "--output", "out.json"]

theorem desk_agrees :
    readArguments (fun _ => none) (askAfter "build-jdk-linux-amd64") =
      some ⟨false, .plan (some "ci.py") (some "build-jdk-linux-amd64")⟩ ∧
    readArguments (fun _ => none) (askAfter "nobody") = some ⟨false, .plan (some "ci.py") (some "nobody")⟩ ∧
    readArguments (fun _ => none) keep = some ⟨false, .generate (some "ci.py") (some "out.json") false⟩ ∧
    outputRefused desk (.plan (some "ci.py") (some "build-jdk-linux-amd64")) = false ∧
    outputRefused desk (.plan (some "ci.py") (some "nobody")) = false ∧
    outputRefused desk (.generate (some "ci.py") (some "out.json") false) = false ∧
    (run desk {} (fun _ => none) (askAfter "build-jdk-linux-amd64")).exitCode = 0 ∧
    Refused desk (.plan (some "ci.py") (some "nobody")) (run desk {} (fun _ => none) (askAfter "nobody")) ∧
    (run desk {} (fun _ => none) keep).exitCode = 0 ∧
    ∃ text, (run desk {} (fun _ => none) keep).written = [(["work", "out.json"], text)] := by
  have read : ∀ job, readArguments (fun _ => none) (askAfter job) = some ⟨false, .plan (some "ci.py") (some job)⟩ :=
    fun _ => rfl
  have free : outputRefused desk (.generate (some "ci.py") (some "out.json") false) = false := by decide +kernel
  have carried : ∀ texts file, Carried {} texts file := fun _ _ => ⟨by simp [carries], by simp [carries]⟩
  have listed : (produced desk (Settings.ofEnvironment fun _ => none) (some "ci.py")).toOption.map (fun made =>
      (made.1.names.contains "build-jdk-linux-amd64", made.1.names.contains "nobody")) = some (true, false) := by
    decide +kernel
  obtain ⟨⟨pipeline, source⟩, found, held⟩ := Option.map_eq_some_iff.mp listed
  have made := toOption_ok.mp found
  simp only [Prod.mk.injEq, List.contains_iff_mem, ← Bool.not_eq_true] at held
  have place : desk.destination "out.json" = .ok ["work", "out.json"] := toOption_ok.mp (by decide +kernel)
  obtain ⟨_, known, _⟩ := run_agrees desk {} (fun _ => none) (askAfter "build-jdk-linux-amd64") _ (read _) rfl
  obtain ⟨_, _, unknown⟩ := run_agrees desk {} (fun _ => none) (askAfter "nobody") _ (read _) rfl
  obtain ⟨_, kept, _⟩ := run_agrees desk {} (fun _ => none) keep _ rfl free
  obtain ⟨_, _, _, planned⟩ := known pipeline source made held.1
  obtain ⟨_, _, _, filed⟩ := kept pipeline source made ⟨by decide +kernel, _, place⟩
  have written := filed.carried (carried _ _)
  obtain ⟨_, text, reached, _, same⟩ := written.placed
  cases place.symm.trans reached
  refine ⟨read _, read _, rfl, rfl, rfl, free, (planned.carried (carried _ _)).code,
    unknown fun other place also present => ?_, written.code, text, same⟩
  cases made.symm.trans also
  exact held.2 present

-- One string that no file can hold is enough to lose what was in the output before.
theorem generate_truncates {lookup : String → Option String} {words : List String} {path : String}
    {place : List String} {record : Value}
    (read : readArguments lookup words = some ⟨debug, .generate matrix (some path) compact⟩)
    (allowed : outputRefused workspace (.generate matrix (some path) compact) = false)
    (whole : Path.isBroken path = false) (reached : workspace.destination path = .ok place)
    (made : produced workspace (Settings.ofEnvironment lookup) matrix = .ok (pipeline, source))
    (recorded : pipeline.record = .ok record) (ascii : Json.CarriesAscii encodings.file)
    (stray : record.strings.all (carries encodings.file) = false) :
    (run workspace encodings lookup words).exitCode = 1 ∧
      (run workspace encodings lookup words).written = [(place, "")] := by
  rcases run_answers workspace encodings read allowed with
    ⟨_, _, also, _, texts, file, reply, concluded⟩ | ⟨denied, _⟩
  · cases made.symm.trans also
    cases reply with
    | @filed _ _ _ text described =>
        obtain ⟨_, again, carried⟩ := Pipeline.descriptor_carried ascii described
        cases recorded.symm.trans again
        have unfit : ¬∀ held ∈ some text, carries encodings.file held := by
          intro fits
          rw [stray, fits text rfl] at carried
          cases carried
        have short := concluded.refused fun written => unfit written.file
        obtain ⟨_, _, _, reachedToo, same, written⟩ := short.emptied unfit
        cases reached.symm.trans reachedToo
        cases same
        exact ⟨short.code, written⟩
  · exact absurd ⟨whole, place, reached⟩ (denied pipeline source made)

-- A repository whose name has a byte in it that is no text.
def garbledRepo (name : String) : Option String := if name = "LABCI_BUILDER_REPO" then some "\uf4ff" else none

theorem garbled_truncates :
    (run desk (.without ['\uf4ff']) garbledRepo ["check", "--matrix", "ci.py"]).exitCode = 0 ∧
    (run desk (.without ['\uf4ff']) garbledRepo ["plan", "--matrix", "ci.py"]).exitCode = 0 ∧
    (run desk (.without ['\uf4ff']) garbledRepo keep).exitCode = 1 ∧
    (run desk (.without ['\uf4ff']) garbledRepo keep).written = [(["work", "out.json"], "")] := by
  have held : ((produced desk (Settings.ofEnvironment garbledRepo) (some "ci.py")).toOption.bind fun made =>
      made.1.record.toOption).map (fun record => record.strings.all (carries (Encodings.without ['\uf4ff']).file)) =
        some false := by
    decide +kernel
  obtain ⟨record, found, stray⟩ := Option.map_eq_some_iff.mp held
  obtain ⟨made, produced, recorded⟩ := Option.bind_eq_some_iff.mp found
  refine ⟨by decide +kernel, by decide +kernel, ?_⟩
  exact generate_truncates rfl (by decide +kernel) (by decide +kernel) (toOption_ok.mp (by decide +kernel))
    (toOption_ok.mp produced) (toOption_ok.mp recorded) (Json.without_ascii (by simp)) stray

end Cli
end BuildMatrix
