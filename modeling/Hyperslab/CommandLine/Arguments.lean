/-
# `Hyperslab.CommandLine.Arguments` — reading a command line

A command line names one of three commands and gives it options, each with a value.
Arguments are read from left to right, and the first that is wrong, or that asks for
help or for the version, ends the reading.  What is missing is noticed at the end.

An option is given once, as `--name value` or `--name=value`; a value of the first form
does not begin with a hyphen, a lone hyphen apart.  Flags of one letter may stand
together behind one hyphen.  Behind `--` nothing may follow.
-/

namespace Hyperslab

/-- The commands by name. -/
inductive CommandName where
  | view
  | filter
  | schema
deriving DecidableEq, Repr

/-- How a view is printed. -/
inductive OutputFormat where
  | display
  | constraint
  | json
deriving DecidableEq, Repr

/-- A command with what it works on. -/
inductive Command where
  | view (dataset request : String) (format : OutputFormat)
  | filter (dataset request sequence records : String)
  | schema (dataset : String)
deriving DecidableEq, Repr

/-- What a command line asks for. -/
inductive Invocation where
  | run (c : Command)
  | version
  /-- Help on the program or on a command. -/
  | help (topic : Option CommandName)
  /-- Help on asking for help. -/
  | helpOnHelp
  | invalid
deriving DecidableEq, Repr

namespace CommandName

def all : List CommandName := [.view, .filter, .schema]

def word : CommandName → String
  | .view => "view"
  | .filter => "filter"
  | .schema => "schema"

/-- The command with a name. -/
def ofWord? (w : String) : Option CommandName := all.find? fun c => c.word == w

/-- The names of the options of a command. -/
def options : CommandName → List String
  | .view => ["dataset", "request", "format"]
  | .filter => ["dataset", "request", "sequence", "records"]
  | .schema => ["dataset"]

end CommandName

/-- The format with a name. -/
def OutputFormat.ofWord? : String → Option OutputFormat
  | "display" => some .display
  | "constraint" => some .constraint
  | "json" => some .json
  | _ => none

/-! ## Single arguments -/

/-- The shape of an argument. -/
inductive ArgumentShape where
  /-- Two hyphens alone. -/
  | terminator
  /-- A name behind two hyphens, perhaps with a value behind an equals sign. -/
  | long (name : String) (value : Option String)
  /-- Letters behind one hyphen. -/
  | short (letters : List Char)
  | plain (text : String)
deriving DecidableEq, Repr

namespace ArgumentShape

/-- A name and what follows its equals sign. -/
def splitValue (cs : List Char) : ArgumentShape :=
  .long (String.ofList (cs.takeWhile (· != '=')))
    (((cs.dropWhile (· != '=')).tail?).map String.ofList)

/-- The shape of an argument. -/
def ofText (text : String) : ArgumentShape :=
  match text.toList with
  | ['-', '-'] => .terminator
  | '-' :: '-' :: cs => splitValue cs
  | '-' :: c :: cs => .short (c :: cs)
  | _ => .plain text

end ArgumentShape

/-- The flag that makes the program talkative was given. -/
abbrev Verbose := Bool

/-- Reads letters behind one hyphen.  Only the program itself has a version. -/
def readLetters (topic : Option CommandName) : Verbose → List Char → Except Invocation Verbose
  | verbose, [] => .ok verbose
  | verbose, c :: cs =>
    if c = 'v' then if verbose then .error .invalid else readLetters topic true cs
    else if c = 'h' then .error (.help topic)
    else if c = 'V' ∧ topic = none then .error .version
    else .error .invalid

/-- Reads a flag behind two hyphens, which has no value. -/
def readFlag (topic : Option CommandName) (verbose : Verbose) (name : String)
    (value : Option String) : Except Invocation Verbose :=
  if value.isSome then .error .invalid
  else if name = "verbose" then if verbose then .error .invalid else .ok true
  else if name = "help" then .error (.help topic)
  else if name = "version" ∧ topic = none then .error .version
  else .error .invalid

/-! ## Options -/

/-- The options given so far. -/
structure Given where
  verbose : Verbose
  values : List (String × String)

/-- One more option; only formats are restricted. -/
def Given.add (g : Given) (name value : String) : Except Invocation Given :=
  if (g.values.lookup name).isSome then .error .invalid
  else if name = "format" ∧ (OutputFormat.ofWord? value).isNone then .error .invalid
  else .ok { g with values := g.values ++ [(name, value)] }

/-- Reads the arguments of a command. -/
def readOptions (c : CommandName) (g : Given) : List String → Except Invocation Given
  | [] => .ok g
  | a :: rest =>
    match ArgumentShape.ofText a with
    | .terminator => if rest.isEmpty then .ok g else .error .invalid
    | .plain _ => .error .invalid
    | .short letters => do
      let verbose ← readLetters (some c) g.verbose letters
      readOptions c { g with verbose } rest
    | .long name value =>
      if c.options.contains name then
        match value, rest with
        | some value, rest => do
          let g ← g.add name value
          readOptions c g rest
        | none, [] => .error .invalid
        | none, value :: rest =>
          match ArgumentShape.ofText value with
          | .plain value => do
            let g ← g.add name value
            readOptions c g rest
          | _ => .error .invalid
      else do
        let verbose ← readFlag (some c) g.verbose name value
        readOptions c { g with verbose } rest

/-- The command with its options, if none is missing. -/
def Given.command? (g : Given) : CommandName → Option Command
  | .view => do
    let dataset ← g.values.lookup "dataset"
    let request ← g.values.lookup "request"
    let format ← OutputFormat.ofWord? ((g.values.lookup "format").getD "display")
    return .view dataset request format
  | .filter => do
    let dataset ← g.values.lookup "dataset"
    let request ← g.values.lookup "request"
    let sequence ← g.values.lookup "sequence"
    let records ← g.values.lookup "records"
    return .filter dataset request sequence records
  | .schema => (g.values.lookup "dataset").map .schema

/-- Reads the arguments behind the name of a command. -/
def readCommand (c : CommandName) (args : List String) : Invocation :=
  match readOptions c ⟨false, []⟩ args with
  | .error i => i
  | .ok g => match g.command? c with
    | some command => .run command
    | none => .invalid

/-- Reads the arguments behind the word for help. -/
def readHelp : List String → Invocation
  | [] => .help none
  | [topic] =>
    if topic = "help" then .helpOnHelp
    else match CommandName.ofWord? topic with
      | some c => .help (some c)
      | none => .invalid
  | _ => .invalid

/-- Reads arguments up to the name of a command and beyond. -/
def readArguments (verbose : Verbose) : List String → Invocation
  | [] => .invalid
  | a :: rest =>
    match ArgumentShape.ofText a with
    | .terminator => .invalid
    | .plain word =>
      if word = "help" then readHelp rest
      else match CommandName.ofWord? word with
        | some c => readCommand c rest
        | none => .invalid
    | .short letters =>
      match readLetters none verbose letters with
      | .error i => i
      | .ok verbose => readArguments verbose rest
    | .long name value =>
      match readFlag none verbose name value with
      | .error i => i
      | .ok verbose => readArguments verbose rest

/-- What a command line asks for. -/
def Invocation.ofArguments (args : List String) : Invocation := readArguments false args

end Hyperslab
