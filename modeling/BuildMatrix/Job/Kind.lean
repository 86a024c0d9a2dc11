namespace BuildMatrix

-- Declared in the order in which a pipeline lists its jobs.
inductive JobKind where
  | build
  | compilerTest
  | jsTest
  | libgraalBuild
  | libgraalTest
  | muslBuild
  | runOnly
deriving DecidableEq, Repr

namespace JobKind

def pipelineOrder : List JobKind :=
  [.build, .compilerTest, .jsTest, .libgraalBuild, .libgraalTest, .muslBuild, .runOnly]

-- The order in which messages name them.
def all : List JobKind :=
  [.build, .muslBuild, .compilerTest, .jsTest, .libgraalBuild, .libgraalTest, .runOnly]

def word : JobKind → String
  | .build => "build"
  | .compilerTest => "compiler-test"
  | .jsTest => "js-test"
  | .libgraalBuild => "libgraal-build"
  | .libgraalTest => "libgraal-test"
  | .muslBuild => "musl-build"
  | .runOnly => "run-only"

def ofWord? (word : String) : Option JobKind := all.find? fun kind => kind.word == word

theorem ofWord?_word (kind : JobKind) : ofWord? kind.word = some kind := by
  cases kind <;> rfl

theorem mem_pipelineOrder (kind : JobKind) : kind ∈ pipelineOrder := by
  cases kind <;> decide

def acceptedParameters : JobKind → List String
  | .build => ["musl"]
  | .runOnly => ["label", "commands", "timelimit"]
  | _ => []

end JobKind
end BuildMatrix
