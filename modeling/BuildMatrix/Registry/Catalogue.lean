import BuildMatrix.Registry.Basic

namespace BuildMatrix

namespace Catalogue

def mx : Trait where
  label := "mx"
  pythonVersion := some "3"
  packages := .ofList [("mx", "6.9.9")]

def osBase : Trait where
  label := "os-base"
  environment := .ofList [("JIB_PATH", "$\x7bPATH\x7d"), ("MAKE", "make"), ("ZLIB_BUNDLING", "system")]
  path := some Platform.unixPath
  exe := some Platform.unixExe
  jdkHome := some Platform.unixJdkHome
  copyDir := some Platform.unixCopyDir

def builderImage : String := "phx.ocir.io/oraclelabs2/c_graal/jdk-snapshot-builder:2021-11-11"
def muslBuilderImage : String := "phx.ocir.io/oraclelabs2/c_graal/jdk-snapshot-builder:musl-2021-11-11"

def linux : Trait where
  label := "linux"
  os := some .linux
  capabilities := ["linux"]
  name := "-linux"
  packages := .ofList [("devkit:gcc10.3.0-OL6.4+1", "==0")]
  docker := some { image := builderImage, mountModules := true }

def linuxMusl : Trait where
  label := "linux-musl"
  os := some .linux
  capabilities := ["linux"]
  name := "-linux"
  docker := some { image := muslBuilderImage }

def darwin : Trait where
  label := "darwin"
  os := some .darwin
  capabilities := ["darwin"]
  name := "-darwin"
  packages := .ofList [("devkit:Xcode12.4+1", "==0")]
  environment := .ofList [("MACOSX_DEPLOYMENT_TARGET", "10.13")]
  jdkHome := some Platform.darwinJdkHome

def windows : Trait where
  label := "windows"
  os := some .windows
  capabilities := ["windows"]
  name := "-windows"
  packages := .ofList [("devkit:VS2019-16.9.3+1", "==0")]
  downloads := .ofList [("CYGWIN", { name := "cygwin", version := "3.0.7" })]
  environment := .ofList [("JIB_PATH", "$CYGWIN\\bin;$PATH"), ("ZLIB_BUNDLING", "bundled")]
  path := some Platform.windowsPath
  exe := some Platform.windowsExe
  copyDir := some Platform.windowsCopyDir

def amd64 : Trait where
  label := "amd64"
  arch := some "amd64"
  capabilities := ["amd64"]
  name := "-amd64"

def amd64Musl : Trait where
  label := "amd64-musl"
  arch := some "amd64"
  capabilities := ["amd64"]
  name := "-amd64-musl"

def aarch64 : Trait where
  label := "aarch64"
  arch := some "aarch64"
  capabilities := ["aarch64"]
  name := "-aarch64"

-- Features, which a job's kind brings along and no combination has to name.

def bootJdk : Trait where
  label := "boot-jdk"
  downloads := .ofList [("BOOT_JDK", { name := "oraclejdk", version := "17.0.1+12" })]

def muslBootJdk : Trait where
  label := "musl-boot-jdk"
  downloads := .ofList [("BOOT_JDK", { name := "labsjdk", version := "ce-17.0.1+12-musl" })]

def jtreg : Trait where
  label := "jtreg"
  downloads := .ofList [("JT_HOME", { name := "jtreg", version := "6.1", platformSpecific := false })]

def buildPackages : Trait where
  label := "build-packages"
  packages := .ofList [("pip:pylint", "==2.4.4"), ("pip:ninja_syntax", "==1.7.2")]

def traits : List Trait :=
  [mx, osBase, linux, linuxMusl, darwin, windows, amd64, amd64Musl, aarch64,
    bootJdk, muslBootJdk, jtreg, buildPackages]

def table : Mapping Trait := .ofList (traits.map fun trait => (trait.label, trait))

def base : List String := ["mx", "os-base"]

end Catalogue

namespace Registry

def catalogue : Registry := ⟨Catalogue.table, Catalogue.base, by decide⟩

-- Where no registry is given the catalogue serves, and also where one without
-- any trait is given.
def orCatalogue : Option Registry → Registry
  | none => catalogue
  | some registry => if registry.isEmpty then catalogue else registry

end Registry
end BuildMatrix
