import BuildMatrix.Value.Literal

namespace BuildMatrix

structure Settings where
  builderRepo : String := "https://github.com/graalvm/labs-openjdk-builder.git"
  builderVersion : String := "master"
  graalRepo : String := "https://github.com/graalvm/graal.git"
  downstreamBranch : String := "master"
deriving DecidableEq, Repr

namespace Settings

-- A variable counts as soon as it is set, even to nothing, and to bytes that are
-- no text as well.
def ofEnvironment (lookup : String → Option String) : Settings :=
  let defaults : Settings := {}
  { builderRepo := (lookup "LABCI_BUILDER_REPO").getD defaults.builderRepo
    builderVersion := (lookup "LABCI_BUILDER_VERSION").getD defaults.builderVersion
    graalRepo := (lookup "LABCI_GRAAL_REPO").getD defaults.graalRepo
    downstreamBranch := (lookup "LABCI_DOWNSTREAM_BRANCH").getD defaults.downstreamBranch }

def rows (settings : Settings) : List (String × String) :=
  [("labsjdk_builder_repo", settings.builderRepo),
   ("labsjdk_builder_version", settings.builderVersion),
   ("graal_repo", settings.graalRepo),
   ("downstream_branch", settings.downstreamBranch)]

def summary (settings : Settings) : String :=
  Value.bracketed "Settings(" (settings.rows.map fun row => row.1 ++ "=" ++ Text.quoted row.2) ")"

end Settings
end BuildMatrix
