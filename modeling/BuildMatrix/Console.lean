import BuildMatrix.Pipeline.Basic

namespace BuildMatrix

-- The characters that each way out can be written. A byte from outside that is
-- no text, such as a variable may hold, stands here as a character set aside for
-- it that neither way out carries: it is read and kept like any other, and only
-- writing it fails.
structure Encodings where
  console : Char → Bool := fun _ => true
  file : Char → Bool := fun _ => true

def Encodings.without (strays : List Char) : Encodings :=
  ⟨fun c => !strays.contains c, fun c => !strays.contains c⟩

def carries (encoding : Char → Bool) (text : String) : Bool := text.toList.all encoding

-- The console takes a text whole or not at all, so what goes there is kept text
-- by text.
structure Printed where
  out : List String := []
  err : String := ""
deriving DecidableEq, Repr

namespace Printed

instance : Append Printed := ⟨fun first second => ⟨first.out ++ second.out, first.err ++ second.err⟩⟩

def toOut (line : String) : Printed := { out := [line ++ "\n"] }
def toErr (line : String) : Printed := { err := line ++ "\n" }

def linesOut (lines : List String) : Printed := { out := lines.map (· ++ "\n") }
def linesErr (lines : List String) : Printed := { err := String.join (lines.map (· ++ "\n")) }

end Printed

namespace Console

open Printed

def header (title : String) : Printed :=
  linesOut ["\n" ++ title, String.ofList (List.replicate title.length '-')]

def summary (pipeline : Pipeline) (source : String) : Printed :=
  linesOut [
    "\nPIPELINE OK",
    "Matrix: " ++ source,
    "Jobs: " ++ toString pipeline.jobs.length,
    "Artifacts: " ++ toString pipeline.artifactProducers.size,
    "Dependencies: " ++ toString pipeline.edges.length]

def planStage (index : Int) (size : Nat) : Printed :=
  toOut ("\n=== Stage " ++ toString (index + 1) ++ " (" ++ toString size ++ " jobs) ===")

def planJob (name : String) (needs : List String) : Printed :=
  if needs.isEmpty then toOut ("  " ++ name)
  else toOut ("  " ++ name ++ " (after: " ++ ", ".intercalate needs ++ ")")

def error (title message : String) (details : List String) (suggestion : String) : Printed :=
  linesErr (["\nERROR: " ++ title, message] ++ details.map ("  " ++ ·))
    ++ if suggestion.isEmpty then {} else toErr ("\n" ++ suggestion)

def traceback (failure : Failure) : Printed :=
  linesErr ["Traceback (most recent call last):", failure.text]

def exception (debug : Bool) (failure : Failure) : Printed :=
  if debug then traceback failure else toErr ("Error: " ++ failure.text)

def info (message : String) : Printed := toOut message

def debugNote (debug : Bool) (message : String) : Printed :=
  if debug then toErr ("[DEBUG] " ++ message) else {}

end Console
end BuildMatrix
