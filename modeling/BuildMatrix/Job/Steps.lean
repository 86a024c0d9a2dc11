import BuildMatrix.Job.Basic
import BuildMatrix.Settings

namespace BuildMatrix

-- The artifacts by which jobs of one template find each other.
namespace Artifact

def labsjdk (template : JobTemplate) : String := "labsjdk" ++ template.name
def graalCommit (template : JobTemplate) : String := "graal-commit" ++ template.name
def libgraal (template : JobTemplate) : String := "libgraal" ++ template.name

end Artifact

namespace Steps

def envRef (name : String) : String := "$\x7b" ++ name ++ "\x7d"

def redirectedUrl (url : String) : Argument := .output ["mx", "urlrewrite", url]

-- Checkouts with foreign line endings break the tools of that system, so the
-- step comes before any clone.
def normalizeLineEndings : Command := ["git", "config", "--global", "core.autocrlf", "input"]

def lineEndings (template : JobTemplate) : List Command :=
  if template.os = some .windows then [normalizeLineEndings] else []

structure DebugLevel where
  word : String
  homeVariable : String
deriving DecidableEq, Repr

def release : DebugLevel := ⟨"release", "JAVA_HOME"⟩
def fastdebug : DebugLevel := ⟨"fastdebug", "JAVA_HOME_FASTDEBUG"⟩

def DebugLevel.homeName (level : DebugLevel) : String := level.word ++ "-java-home"

def debugLevels (musl : Bool) : List DebugLevel := if musl then [release] else [release, fastdebug]

def checkoutBuilder (settings : Settings) (template : JobTemplate) : List Command := [
  ["set-export", "LABSJDK_BUILDER_DIR", template.path (envRef "PWD" ++ "/../labsjdk-builder")],
  ["git", "clone", "--quiet", redirectedUrl settings.builderRepo, envRef "LABSJDK_BUILDER_DIR"],
  ["git", "-C", envRef "LABSJDK_BUILDER_DIR", "checkout", settings.builderVersion]]

def exportHome (template : JobTemplate) (level : DebugLevel) : Command :=
  ["set-export", level.homeVariable, template.path (envRef "PWD" ++ "/../" ++ level.homeName)]

def runBuilder (template : JobTemplate) (musl : Bool) (level : DebugLevel) : Command :=
  .ofTexts (
    ["python3", "-u", template.path (envRef "LABSJDK_BUILDER_DIR" ++ "/build_labsjdk.py"),
      "--boot-jdk=" ++ envRef "BOOT_JDK",
      "--clean-after-build",
      "--jdk-debug-level=" ++ level.word,
      "--test=" ++ if musl then "none" else "run-test-tier1"]
    ++ (if musl then [] else ["--jtreg=" ++ envRef "JT_HOME"])
    ++ ["--java-home-link-target=" ++ envRef level.homeVariable, template.path (envRef "PWD")])

def buildLevel (template : JobTemplate) (musl : Bool) (level : DebugLevel) : List Command :=
  [exportHome template level, runBuilder template musl level]

def showVersion (template : JobTemplate) (level : DebugLevel) : Command :=
  [template.exe (envRef level.homeVariable ++ "/bin/java"), "-version"]

def keepHome (template : JobTemplate) (level : DebugLevel) : Command :=
  .ofTexts (template.copyDir (envRef level.homeVariable) (envRef "PWD" ++ "/" ++ level.homeName))

def jdk (settings : Settings) (template : JobTemplate) (musl : Bool) : List Command :=
  let levels := debugLevels musl
  lineEndings template
    ++ checkoutBuilder settings template
    ++ levels.flatMap (buildLevel template musl)
    ++ levels.map (showVersion template)
    ++ if musl then [] else levels.map (keepHome template)

def cloneGraal (settings : Settings) (template : JobTemplate) : List Command :=
  let clone : List Command := [
    ["git", "clone", redirectedUrl settings.graalRepo],
    ["git", "-C", "graal", "checkout", settings.downstreamBranch, "||", "true"]]
  lineEndings template ++ clone

def exportJavaHome (template : JobTemplate) : Command :=
  ["set-export", "JAVA_HOME", template.jdkHome "$LABSJDK_HOME"]

def compilerTest : List Command :=
  [["mx", "-p", "graal/compiler", "gate", "--tags", "build,test,bootstraplite"]]

def jsTest : List Command :=
  [["mx", "-p", "graal/vm", "--dynamicimports", "/graal-js,/compiler",
    "gate", "--tags", "build,Test262-default"]]

def libgraalTool (arguments : List String) : Command :=
  .ofTexts (["mx", "-p", "graal/vm", "--env", "libgraal"] ++ arguments)

def libgraalBuild (template : JobTemplate) : List Command := [
  libgraalTool [
    "--extra-image-builder-argument=-J-esa",
    "--extra-image-builder-argument=-H:+ReportExceptionStackTraces",
    "build"],
  ["set-export", "LIBGRAAL_HOME", .output (libgraalTool ["--quiet", "--no-warning", "graalvm-home"])],
  .ofTexts (template.copyDir (envRef "LIBGRAAL_HOME") (envRef "PWD" ++ "/libgraal-home")),
  ["git", "-C", "graal", "log", "-1", "--format=%H",
    "--output=" ++ template.path (envRef "PWD" ++ "/graal-commit")]]

-- The revision under test is the one that was built.
def libgraalTest (template : JobTemplate) : List Command := [
  ["git", "-C", "graal", "checkout", .output ["cat", "graal-commit"]],
  ["set-export", "LIBGRAAL_HOME", template.path (envRef "PWD" ++ "/libgraal-home")],
  [template.exe (envRef "LIBGRAAL_HOME" ++ "/bin/java"),
    "-XX:+UnlockExperimentalVMOptions", "-XX:+UseJVMCICompiler", "-XX:+UseJVMCINativeLibrary",
    "-version"],
  libgraalTool ["gate", "--task", "LibGraal Compiler"]]

end Steps
end BuildMatrix
