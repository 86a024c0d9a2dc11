import BuildMatrix.Matrix.Basic

namespace BuildMatrix

namespace Matrix

def buildCells : List Combination :=
  [["linux", "amd64"], ["darwin", "amd64"], ["windows", "amd64"], ["linux", "aarch64"]]

def graalCells : List Combination :=
  [["linux", "amd64"], ["darwin", "amd64"], ["linux", "aarch64"]]

def muslCells : List Combination := [["linux-musl", "amd64-musl"]]

def jvmciVersion (template : JobTemplate) : Value :=
  .list [.texts [template.exe (Steps.envRef "JAVA_HOME" ++ "/bin/java"),
    "-XX:+UnlockExperimentalVMOptions", "-XX:+EnableJVMCI", "-version"]]

def defaults : List Matrix := [
  ⟨.build, buildCells, .ofList [("musl", .fixed (.bool false))]⟩,
  ⟨.compilerTest, graalCells, ∅⟩,
  ⟨.jsTest, graalCells, ∅⟩,
  ⟨.libgraalBuild, graalCells, ∅⟩,
  ⟨.libgraalTest, graalCells, ∅⟩,
  ⟨.muslBuild, muslCells, ∅⟩,
  ⟨.runOnly, [["linux", "amd64"]], .ofList [
    ("label", .fixed (.text "jvmci-version")),
    ("commands", .computed jvmciVersion)]⟩]

end Matrix
end BuildMatrix
