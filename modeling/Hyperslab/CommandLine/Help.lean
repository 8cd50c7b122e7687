/-
# `Hyperslab.CommandLine.Help` — what the program says about itself

The version, and the help on the program, on its commands, and on help.
-/
import Hyperslab.CommandLine.Arguments

namespace Hyperslab.Help

def version : String := "dapview 0.1.0\n"

/-- Help on the program. -/
def program : String :=
  "Constraint views over hierarchical dataset descriptions

Usage: dapview [OPTIONS] <COMMAND>

Commands:
  view    Build a view from a request and print it
  filter  Stream the records of a sequence through the view's filter
  schema  Print the dataset tree
  help    Print this message or the help of the given subcommand(s)

Options:
  -v, --verbose  Log finalization passes and filter decisions
  -h, --help     Print help
  -V, --version  Print version
"

def view : String :=
  "Build a view from a request and print it

Usage: dapview view [OPTIONS] --dataset <DATASET> --request <REQUEST>

Options:
      --dataset <DATASET>  Path to the dataset description (TOML)
  -v, --verbose            Log finalization passes and filter decisions
      --request <REQUEST>  Path to the view request (TOML)
      --format <FORMAT>    Output format (display, constraint, or json) [default: display]
  -h, --help               Print help
"

def filter : String :=
  "Stream the records of a sequence through the view's filter

Usage: dapview filter [OPTIONS] --dataset <DATASET> --request <REQUEST> --sequence <SEQUENCE> --records <RECORDS>

Options:
      --dataset <DATASET>    Path to the dataset description (TOML)
  -v, --verbose              Log finalization passes and filter decisions
      --request <REQUEST>    Path to the view request (TOML)
      --sequence <SEQUENCE>  Fully-qualified name of the sequence
      --records <RECORDS>    Path to the record data (TOML `[[record]]` tables)
  -h, --help                 Print help
"

def schema : String :=
  "Print the dataset tree

Usage: dapview schema [OPTIONS] --dataset <DATASET>

Options:
      --dataset <DATASET>  Path to the dataset description (TOML)
  -v, --verbose            Log finalization passes and filter decisions
  -h, --help               Print help
"

/-- Help on asking for help. -/
def help : String :=
  "Print this message or the help of the given subcommand(s)

Usage: dapview help [COMMAND]...

Arguments:
  [COMMAND]...  Print help for the subcommand(s)
"

/-- Help on a topic. -/
def onTopic : Option CommandName → String
  | none => program
  | some .view => view
  | some .filter => filter
  | some .schema => schema

end Hyperslab.Help
