/-
# `Hyperslab.CommandLine.Execution` — what the commands do

A command reads its files, makes the view or the dataset they describe, and prints a
text.  What fails is reported with what was being done as the headline and the causes
below it; a failure that has no such headline is its own.

Records that cannot be judged are left out of what is printed.
-/
import Hyperslab.CommandLine.Files
import Hyperslab.CommandLine.Help
import Hyperslab.Dataset.Listing
import Hyperslab.Dataset.Loading
import Hyperslab.Filter.Engine
import Hyperslab.Request.Building

namespace Hyperslab

/-! ## Failures -/

/-- A headline and the causes of what it says. -/
structure Failure where
  headline : String
  causes : List String
deriving DecidableEq, Repr

namespace Failure

/-- A text whose later lines are indented. -/
def hang (indentation : String) (text : String) : String :=
  ("\n" ++ indentation).intercalate ((Text.splitAll '\n' text.toList).map String.ofList)

/-- A number to the right of five places. -/
def number (n : Nat) : String :=
  let ds := toString n
  String.ofList (List.replicate (5 - ds.length) ' ') ++ ds

/-- Causes with their numbers. -/
def numbered : (n : Nat) → List String → List String
  | _, [] => []
  | n, c :: rest => ("\n" ++ number n ++ ": " ++ hang "       " c) :: numbered (n + 1) rest

/-- The causes under their title; a single one has no number. -/
def causesText : List String → String
  | [] => ""
  | [c] => "\n\nCaused by:\n    " ++ hang "    " c
  | cs => "\n\nCaused by:" ++ String.join (numbered 0 cs)

/-- The report of a failure. -/
def text (f : Failure) : String := "Error: " ++ f.headline ++ causesText f.causes ++ "\n"

end Failure

/-- The failure to do something because of an error. -/
def Failure.during {ε : Type} [Reported ε] (headline : String) (e : ε) : Failure :=
  ⟨headline, [report e]⟩

/-- The failure that an error is by itself. -/
def Failure.bare {ε : Type} [Reported ε] (e : ε) : Failure := ⟨report e, []⟩

/-- The failure to do something for want of a file. -/
def Failure.unreadable (headline : String) (e : FileFault) : Failure :=
  ⟨headline, [ErrorKind.file.heading ++ ": " ++ e.message, e.message]⟩

/-! ## Reading -/

/-- The dataset that a file describes. -/
def loadDataset (files : FileSystem) (path : String) : Except Failure Dataset := do
  let headline := "Failed to load dataset description " ++ path
  let text ← (files path).mapError (Failure.unreadable headline)
  (Dataset.ofText? text).mapError (Failure.during headline)

/-- The request in a file. -/
def loadRequest (files : FileSystem) (path : String) : Except Failure Request := do
  let headline := "Failed to load view request " ++ path
  let text ← (files path).mapError (Failure.unreadable headline)
  match Request.read? text with
  | some r => return r
  | none => throw (Failure.during headline RequestError.malformed)

/-- The records in a file. -/
def loadRecords (files : FileSystem) (path : String) : Except Failure (List Record) := do
  let text ← (files path).mapError fun e => ⟨"Failed to read records " ++ path, [e.message]⟩
  match Record.readAll? text with
  | some rs => return rs
  | none => throw (Failure.during ("Failed to parse records " ++ path) RequestError.malformed)

/-- The finished view that a file requests of the dataset in another. -/
def loadView (files : FileSystem) (dataset request : String) (setting : Option String) :
    Except Failure View := do
  let d ← loadDataset files dataset
  let r ← loadRequest files request
  (r.build d (resolveExpand r.expand setting)).mapError (Failure.during "Failed to build view")

/-! ## Writing -/

/-- A view in a format. -/
def View.print (w : View) (format : OutputFormat) : Except ViewError String :=
  match format with
  | .display => w.render .display
  | .constraint => w.render .constraint
  | .json => w.summary.map fun s => s.json.indented

def Scalar.json : Scalar → Json
  | .bool b => .bool b
  | .int i => .integer i
  | .float x => .float x
  | .text s => .string s

def Record.json (r : Record) : Json := .object (r.fields.map fun f => (f.1, f.2.json))

/-- A record with its index, on one line. -/
def IndexedRecord.line (r : IndexedRecord) : String :=
  (Json.object [("index", .integer r.index), ("record", r.record.json)]).compact

/-- The results that are records. -/
def successes {ε α : Type} (results : List (Except ε α)) : List α :=
  results.filterMap Except.toOption

/-- The lines for the records of a sequence that pass the filter of a view. -/
def filterLines [PatternCompiler] (w : View) (sequence : String) (records : List Record) :
    Except Failure (List String) :=
  match w.dataset.findVariable? sequence with
  | none => .error ⟨"Sequence not found: " ++ sequence, []⟩
  | some v =>
    match w.records v (.ofList records) with
    | .error e => .error (Failure.bare e)
    | .ok stream => .ok ((successes stream.drain.1).map IndexedRecord.line)

/-! ## Commands -/

/-- The text that a command prints. -/
def Command.run (files : FileSystem) (setting : Option String) : Command → Except Failure String
  | .view dataset request format => do
    let w ← loadView files dataset request setting
    let text ← (w.print format).mapError Failure.bare
    return text ++ "\n"
  | .filter dataset request sequence records => do
    let w ← loadView files dataset request setting
    let rs ← loadRecords files records
    let lines ← filterLines w sequence rs
    return String.join (lines.map (· ++ "\n"))
  | .schema dataset => do
    let d ← loadDataset files dataset
    return d.describe

/-- How the program ends. -/
structure Ending where
  code : Nat
  output : String
  errors : String
deriving DecidableEq, Repr

/-- The ending of the program for what a command line asks for. -/
def Invocation.ending (files : FileSystem) (setting : Option String) : Invocation → Ending
  | .run c =>
    match c.run files setting with
    | .ok text => ⟨0, text, ""⟩
    | .error f => ⟨1, "", f.text⟩
  | .version => ⟨0, Help.version, ""⟩
  | .help topic => ⟨0, Help.onTopic topic, ""⟩
  | .helpOnHelp => ⟨0, Help.help, ""⟩
  | .invalid => ⟨2, "", Help.program⟩

end Hyperslab
