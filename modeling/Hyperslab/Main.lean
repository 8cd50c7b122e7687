/-
# `Hyperslab.Main` — the program

The outermost layer: arguments, surroundings and files come in, and texts and a code go
out.  What they are is decided elsewhere.
-/
import Hyperslab.CommandLine.Execution

namespace Hyperslab

/-- The files that a command reads. -/
def Command.paths : Command → List String
  | .view dataset request _ => [dataset, request]
  | .filter dataset request _ records => [dataset, request, records]
  | .schema dataset => [dataset]

/-- The files that a command line makes the program read. -/
def Invocation.paths : Invocation → List String
  | .run c => c.paths
  | _ => []

/-- The reason behind an error of the system, whose codes may come negated. -/
def FileFault.ofError : IO.Error → FileFault
  | .noFileOrDirectory _ _ _ => .missing
  | .noSuchThing _ _ _ => .missing
  | .inappropriateType _ code _ =>
    if code = 21 ∨ code = 4294967275 then .directory else .notDirectory
  | .invalidArgument (some path) code details =>
    if code = 36 ∨ code = 4294967260 then .nameTooLong
    else .other (toString (IO.Error.invalidArgument (some path) code details))
  | e => .other (toString e)

/-- Reads a file as a text. -/
def readText (path : String) : IO (Except FileFault String) := do
  try
    let bytes ← IO.FS.readBinFile path
    match String.fromUTF8? bytes with
    | some text => return .ok text
    | none => return .error .notText
  catch e => return .error (.ofError e)

/-- Reads files by name. -/
def readFiles (paths : List String) : IO FileSystem := do
  let texts ← paths.mapM fun path => do return (path, ← readText path)
  return fun path => (texts.lookup path).getD (.error .missing)

/-- Writes to a stream and makes sure that it gets there. -/
def emit (stream : IO.FS.Stream) (text : String) : IO Unit := do
  stream.putStr text
  stream.flush

end Hyperslab

open Hyperslab in
def main (args : List String) : IO UInt32 := do
  let invocation := Invocation.ofArguments args
  let files ← readFiles invocation.paths
  let ending := invocation.ending files (← IO.getEnv "DAPVIEW_EXPAND")
  emit (← IO.getStdout) ending.output
  emit (← IO.getStderr) ending.errors
  return UInt32.ofNat ending.code
